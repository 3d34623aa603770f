import SessionBoard.Paint
import SessionBoard.Text.Fit

namespace SessionBoard

open SessionBoard.Text

inductive NoticeKind
  | info
  | error
  deriving DecidableEq, Repr, Inhabited

def NoticeKind.color : NoticeKind → Color
  | .info => .green
  | .error => .red

structure Notice where
  text : List Char
  kind : NoticeKind
  expiresAt : Nat
  deriving DecidableEq, Repr, Inhabited

/-- The bottom line: the keys and the server, or for a short while a notice. -/
structure StatusLine where
  server : String
  notice : Option Notice := none
  deriving DecidableEq, Repr, Inhabited

namespace StatusLine

/-- How long a notice stays, in milliseconds. -/
def noticeDuration : Nat := 2000

def withNotice (status : StatusLine) (kind : NoticeKind) (text : List Char) (now : Nat) : StatusLine :=
  { status with notice := some ⟨text, kind, now + noticeDuration⟩ }

/-- Drops a notice that has expired and says whether there was one. -/
def expire (status : StatusLine) (now : Nat) : StatusLine × Bool :=
  match status.notice with
  | some notice => if notice.expiresAt ≤ now then ({ status with notice := none }, true)
      else (status, false)
  | none => (status, false)

def keyHints : List (String × String) :=
  [("q", "quit"), ("r", "refresh"), ("drag", "copy")]

def spans (status : StatusLine) (width : Nat) : List Span :=
  match status.notice with
  | some notice => [⟨truncate notice.text width, .ofColor notice.kind.color⟩]
  | none =>
    keyHints.flatMap (fun (key, action) =>
      [⟨key.toList, .ofColor .cyan⟩, ⟨(" " ++ action ++ "  ").toList, .ofColor .darkGray⟩])
      ++ [⟨status.server.toList, .ofColor .darkGray⟩]

end StatusLine

end SessionBoard
