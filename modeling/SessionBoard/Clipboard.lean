import SessionBoard.Text.Base64
import SessionBoard.Text.Utf8

namespace SessionBoard.Clipboard

open SessionBoard.Text

/-- The control sequence that puts a text on the clipboard of the terminal that shows the board, which may be
far from the host it runs on. The text goes in base64, so nothing in it can end the sequence. -/
def sequence (text : List Char) : List Char :=
  "\x1b]52;c;".toList ++ Base64.encode (Utf8.encode text) ++ "\x1b\\".toList

def systemFailure : String := "System clipboard failed: "

end SessionBoard.Clipboard
