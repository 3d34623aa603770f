import SessionBoard.Session.Record

namespace SessionBoard

/-- Rows that belong to sessions. `γ` is what their owner gives them to be built or refreshed. -/
structure RowKind (ρ γ : Type) where
  key : ρ → SessionId
  create : SessionRecord → γ → ρ × γ
  /-- Takes over a record and says whether anything visible changed. -/
  update : ρ → SessionRecord → γ → (ρ × Bool) × γ

inductive RowOp
  | update (key : SessionId) (changed : Bool)
  | remove (key : SessionId)
  | append (key : SessionId)
  deriving DecidableEq, Repr

abbrev ReconcileReport := List RowOp

namespace ReconcileReport

def removed (report : ReconcileReport) : List SessionId :=
  report.filterMap fun
    | .remove key => some key
    | _ => none

def appended (report : ReconcileReport) : List SessionId :=
  report.filterMap fun
    | .append key => some key
    | _ => none

def isUnchanged (report : ReconcileReport) : Bool :=
  report.all fun
    | .update _ changed => !changed
    | _ => false

end ReconcileReport

def lastRecord? (snapshot : Snapshot) (id : SessionId) : Option SessionRecord :=
  snapshot.reverse.find? (·.id = id)

namespace RowKind

variable {ρ γ : Type} (kind : RowKind ρ γ)

/-- Updates the rows whose session is in the snapshot and drops the others. A session is `taken` by
the first row that shows it. -/
def keep (snapshot : Snapshot) : List ρ → (taken : List SessionId) → γ →
    (List ρ × List RowOp) × List SessionId × γ
  | [], taken, context => (([], []), taken, context)
  | row :: rows, taken, context =>
    match if kind.key row ∈ taken then none else lastRecord? snapshot (kind.key row) with
    | some record =>
      let ((row', changed), context) := kind.update row record context
      let ((kept, ops), rest) := keep snapshot rows (kind.key row :: taken) context
      ((row' :: kept, .update (kind.key row') changed :: ops), rest)
    | none =>
      let ((kept, ops), rest) := keep snapshot rows taken context
      ((kept, .remove (kind.key row) :: ops), rest)

/-- Creates a row for every session of the snapshot that is not taken. -/
def appendNew (snapshot : Snapshot) : List SessionRecord → (taken : List SessionId) → γ →
    (List ρ × List RowOp) × γ
  | [], _, context => (([], []), context)
  | record :: records, taken, context =>
    match if record.id ∈ taken then none else lastRecord? snapshot record.id with
    | some last =>
      let (row, context) := kind.create last context
      let ((rows, ops), context) := appendNew snapshot records (record.id :: taken) context
      ((row :: rows, .append (kind.key row) :: ops), context)
    | none => appendNew snapshot records taken context

/-- Brings rows in line with a snapshot. Rows that stay keep their order, new ones come after them, so the table
never reshuffles under its viewer. When a snapshot repeats an id, the first occurrence gives the place and the
last one the fields. -/
def reconcile (rows : List ρ) (snapshot : Snapshot) (context : γ) :
    (List ρ × ReconcileReport) × γ :=
  let ((kept, updates), taken, context) := kind.keep snapshot rows [] context
  let ((new, appends), context) := kind.appendNew snapshot snapshot taken context
  ((kept ++ new, updates ++ appends), context)

end RowKind

end SessionBoard
