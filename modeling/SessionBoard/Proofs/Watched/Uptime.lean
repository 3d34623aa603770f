import SessionBoard.Proofs.Checked
import SessionBoard.Proofs.Uptime.Digits
import SessionBoard.Table.Row

namespace SessionBoard

namespace Checked

/-- The sum of an instant and a duration, if the clock goes that far. -/
def add (limit instant duration : Nat) : Checked Nat :=
  if instant + duration ≤ limit then .ok (instant + duration) else .error .overflow

theorem add_eq {limit instant duration : Nat} (room : instant + duration ≤ limit) :
    add limit instant duration = .ok (instant + duration) :=
  if_pos room

/-- How many octets a text takes. -/
def octets : List Char → Nat
  | [] => 0
  | char :: text => char.utf8Size + octets text

/-- The text up to an octet, and the text from there on. -/
def cut : List Char → (octet : Nat) → Checked (List Char × List Char)
  | text, 0 => .ok ([], text)
  | [], _ + 1 => .error .boundary
  | char :: text, octet + 1 =>
    if octet + 1 < char.utf8Size then .error .boundary
    else do
      let (before, after) ← cut text (octet + 1 - char.utf8Size)
      return (char :: before, after)

theorem length_of_cut {text before after : List Char} {octet : Nat}
    (found : cut text (octet + 1) = .ok (before, after)) : after.length < text.length := by
  induction text generalizing octet before with
  | nil => cases found
  | cons char text ih =>
    rw [cut] at found
    split at found
    · cases found
    obtain ⟨⟨inner, later⟩, further, same⟩ := bind_eq_ok.mp found
    cases same
    rw [List.length_cons]
    cases left : octet + 1 - char.utf8Size with
    | zero =>
      rw [left, cut] at further
      cases further
      exact Nat.lt_succ_self _
    | succ rest =>
      rw [left] at further
      exact (ih further).trans (Nat.lt_succ_self _)

/-- A text can be cut between two characters. -/
theorem cut_append (before after : List Char) : cut (before ++ after) (octets before) = .ok (before, after) := by
  induction before with
  | nil => rw [List.nil_append, octets, cut]
  | cons char before ih =>
    obtain ⟨size, whole⟩ := Nat.exists_eq_add_of_lt char.utf8Size_pos
    have total : octets (char :: before) = octets before + size + 1 := by
      rw [octets]
      omega
    rw [total, List.cons_append, cut, if_neg (by omega),
      show octets before + size + 1 - char.utf8Size = octets before by omega, ih]
    rfl

/-- Decimal digits take an octet each. -/
theorem octets_of_digits {digits : List Char} (decimal : ∀ char ∈ digits, char.isDigit) :
    octets digits = digits.length := by
  induction digits with
  | nil => rfl
  | cons digit digits ih =>
    obtain ⟨first, others⟩ := List.forall_mem_cons.mp decimal
    have single : digit.utf8Size = 1 := by
      simp only [Char.isDigit, Bool.and_eq_true, decide_eq_true_eq] at first
      have small : digit.val ≤ 127 := by
        have := first.2
        exact UInt32.le_trans this (by decide)
      rw [Char.utf8Size, if_pos (by simpa using small)]
    rw [octets, single, ih others, List.length_cons, Nat.add_comm]

theorem cut_digits {digits : List Char} (decimal : ∀ char ∈ digits, char.isDigit) {octet : Nat}
    (within : octet ≤ digits.length) : cut digits octet = .ok (digits.take octet, digits.drop octet) := by
  have size : octets (digits.take octet) = octet := by
    rw [octets_of_digits fun char member => decimal char (List.mem_of_mem_take member), List.length_take,
      Nat.min_eq_left within]
  have whole := cut_append (digits.take octet) (digits.drop octet)
  rwa [List.take_append_drop, size] at whole

/-- A cut inside a character is refused. -/
example : cut ['…', 'a'] 1 = .error .boundary ∧ cut ['…', 'a'] 3 = .ok (['…'], ['a']) := by decide

end Checked

namespace Watched

open Checked (cut octets)
open Uptime (divider padGroup elapsedSeconds changedFrom)

/-- Cuts threes off a text until nothing is left of it. -/
def triples (rest : List Char) : Checked (List (List Char)) :=
  if rest.isEmpty then .ok []
  else
    match _ : cut rest 3 with
    | .error breach => .error breach
    | .ok (group, later) => return group :: (← triples later)
termination_by rest.length
decreasing_by exact Checked.length_of_cut ‹_›

theorem triples_eq {rest : List Char} (decimal : ∀ char ∈ rest, char.isDigit)
    (divides : rest.length % 3 = 0) : triples rest = .ok (Uptime.triples rest) := by
  fun_induction Uptime.triples rest with
  | case1 a b c rest ih =>
    have size : rest.length % 3 = 0 := by
      simp only [List.length_cons] at divides
      omega
    have within : 3 ≤ (a :: b :: c :: rest).length := by simp
    have group := Checked.cut_digits decimal within
    rw [triples, if_neg (by simp)]
    split
    next refused => cases group.symm.trans refused
    next found =>
      cases group.symm.trans found
      rw [show List.drop 3 (a :: b :: c :: rest) = rest from rfl,
        ih (fun char member => decimal char (by simp [member])) size]
      rfl
  | case2 rest short =>
    have bound := Uptime.length_lt_three short
    have empty : rest.isEmpty := by
      rw [List.isEmpty_iff_length_eq_zero]
      omega
    rw [triples, if_pos empty]

def digitGroups (seconds : Nat) : Checked (List (List Char)) := do
  let digits := Nat.toDigits 10 seconds
  let head := if octets digits % 3 = 0 then 3 else octets digits % 3
  let (first, rest) ← cut digits head
  return first :: (← triples rest)

theorem digitGroups_eq (seconds : Nat) : digitGroups seconds = .ok (Uptime.digitGroups seconds) := by
  have decimal : ∀ char ∈ Nat.toDigits 10 seconds, char.isDigit := fun char member =>
    Nat.isDigit_of_mem_toDigits (by decide) (by decide) member
  have some_digit : 0 < (Nat.toDigits 10 seconds).length := Nat.length_toDigits_pos
  have head : (if octets (Nat.toDigits 10 seconds) % 3 = 0 then 3 else octets (Nat.toDigits 10 seconds) % 3) =
      ((Nat.toDigits 10 seconds).length - 1) % 3 + 1 := by
    rw [Checked.octets_of_digits decimal]
    split <;> omega
  have within : ((Nat.toDigits 10 seconds).length - 1) % 3 + 1 ≤ (Nat.toDigits 10 seconds).length := by
    omega
  have divides :
      ((Nat.toDigits 10 seconds).drop (((Nat.toDigits 10 seconds).length - 1) % 3 + 1)).length % 3 = 0 := by
    rw [List.length_drop]
    omega
  have first := Checked.cut_digits decimal within
  have rest := triples_eq (fun char member => decimal char (List.mem_of_mem_drop member)) divides
  simp only [digitGroups, head, first, rest, Checked.ok_bind]
  rfl

def paddedGroups (seconds atLeast : Nat) : Checked (List (List Char)) := do
  let groups ← digitGroups seconds
  if atLeast ≤ groups.length then return groups
  let missing ← Checked.sub atLeast groups.length
  let zeros ← Checked.sub missing 1
  return ['0'] :: List.replicate zeros ['0', '0', '0'] ++
    groups.zipIdx.map fun (group, index) => if index = 0 then padGroup group else group

theorem paddedGroups_eq (seconds atLeast : Nat) :
    paddedGroups seconds atLeast = .ok (Uptime.paddedGroups seconds atLeast) := by
  obtain ⟨first, rest, groups⟩ : ∃ first rest, Uptime.digitGroups seconds = first :: rest := ⟨_, _, rfl⟩
  rw [paddedGroups, digitGroups_eq, Checked.ok_bind, Uptime.paddedGroups, groups, List.length_cons]
  dsimp only
  by_cases enough : atLeast ≤ rest.length + 1
  · rw [if_pos enough, if_pos (Nat.sub_eq_zero_of_le enough)]
    rfl
  · have missing : Checked.sub atLeast (rest.length + 1) = .ok (atLeast - (rest.length + 1)) :=
      if_pos (by omega)
    have zeros : Checked.sub (atLeast - (rest.length + 1)) 1 = .ok (atLeast - (rest.length + 1) - 1) :=
      if_pos (by omega)
    have later : ∀ item ∈ rest.zipIdx 1, (if item.2 = 0 then padGroup item.1 else item.1) = item.1 :=
      fun item member => if_neg (by have := List.le_snd_of_mem_zipIdx member; omega)
    rw [if_neg enough, if_neg (by omega), missing, Checked.ok_bind, zeros, Checked.ok_bind,
      List.zipIdx_cons, List.map_cons, if_pos rfl, List.map_congr_left later, List.zipIdx_map_fst]
    rfl

section

variable {limit : Nat} {context : RowContext} {now : Clock}

/-- Each cut of a text, each difference and each sum of instants is refused where it would break a bound. None
is, as long as the clock has room for one more interval, and then what is looked at in this way is the same. -/
def startTime (limit : Nat) (startedAt : Int) (generation interval : Nat) (now : Clock) :
    Checked LiveTime := do
  let groups ← digitGroups (elapsedSeconds startedAt now.wall)
  let nextDue ← Checked.add limit now.instant interval
  return { startedAt, generation, groups, interval, nextDue }

theorem startTime_eq {interval : Nat} (room : now.instant + interval ≤ limit) (startedAt : Int)
    (generation : Nat) :
    startTime limit startedAt generation interval now = .ok (.start startedAt generation interval now) := by
  rw [startTime, digitGroups_eq, Checked.ok_bind, Checked.add_eq room]
  rfl

def poll (limit : Nat) (display : LiveTime) (now : Clock) : Checked (LiveTime × Option (List Nat)) :=
  if now.instant < display.nextDue then .ok (display, none)
  else do
    let due ← Checked.add limit display.nextDue display.interval
    let due ← if due ≤ now.instant then Checked.add limit now.instant display.interval else pure due
    let groups ← paddedGroups (elapsedSeconds display.startedAt now.wall) display.groups.length
    return ({ display with groups := groups, nextDue := due }, some (changedFrom 0 display.groups groups))

theorem poll_eq {display : LiveTime} (room : now.instant + display.interval ≤ limit) :
    poll limit display now = .ok (display.poll now) := by
  rw [poll, LiveTime.poll]
  split
  · rfl
  next past =>
    rw [Checked.add_eq (by omega), Checked.ok_bind, Checked.add_eq room, paddedGroups_eq, LiveTime.rearmed]
    split <;> rfl

def liveTime (limit : Nat) (context : RowContext) (startedAt : Int) : Checked (LiveTime × RowContext) := do
  let display ← startTime limit startedAt context.nextGeneration context.tick context.now
  return (display, { context with nextGeneration := context.nextGeneration + 1 })

theorem liveTime_eq (room : context.now.instant + context.tick ≤ limit) (startedAt : Int) :
    liveTime limit context startedAt = .ok (context.liveTime startedAt) := by
  rw [liveTime, startTime_eq room]
  rfl

def createRow (limit : Nat) (record : SessionRecord) (context : RowContext) :
    Checked (SessionRow × RowContext) := do
  let (uptime, context) ← liveTime limit context record.startedAt
  return (⟨record, uptime⟩, context)

theorem createRow_eq (room : context.now.instant + context.tick ≤ limit) (record : SessionRecord) :
    createRow limit record context = .ok (SessionRow.create record context) := by
  rw [createRow, liveTime_eq room]
  rfl

def updateRow (limit : Nat) (row : SessionRow) (record : SessionRecord) (context : RowContext) :
    Checked ((SessionRow × Bool) × RowContext) :=
  let changed := row.record != record
  if row.uptime.startedAt = record.startedAt then .ok ((⟨record, row.uptime⟩, changed), context)
  else do
    let (uptime, context) ← liveTime limit context record.startedAt
    return ((⟨record, uptime⟩, changed), context)

theorem updateRow_eq (room : context.now.instant + context.tick ≤ limit) (row : SessionRow)
    (record : SessionRecord) : updateRow limit row record context = .ok (row.update record context) := by
  rw [updateRow, SessionRow.update, liveTime_eq room]
  split <;> rfl

end

end Watched

end SessionBoard
