import HWPanel.Core.Bus
import HWPanel.Library.RowChanges
import Mathlib.Data.List.TakeDrop

/-!
# The notification list

`NotificationModel` of `apps/hwpanel-client/backend/notification_model.cpp` holds the newest
fifty notifications, newest first, and announces every change of its rows to the views.
-/

namespace HWPanel.Client

open HWPanel.Core HWPanel.Library

namespace NotificationModel

structure Row where
  time : String
  level : String
  title : String
  message : String

inductive Role where
  | time
  | level
  | title
  | message

end NotificationModel

/-- `changes` are the row signals of `QAbstractItemModel` and `counts` the value of
`count` at each `countChanged`. -/
structure NotificationModel where
  rows : List NotificationModel.Row := []
  changes : List (RowChange NotificationModel.Row) := []
  counts : List Nat := []

namespace NotificationModel

/-- `formatTime` is `QDateTime::fromMSecsSinceEpoch(...).toString("HH:mm:ss")`, which
depends on the time zone of the machine. -/
def row (formatTime : Int → String) (event : EventMessage) : Row where
  time := formatTime event.timestampMs
  level := event.level
  title := event.title
  message := event.message

variable (formatTime : Int → String) (self : NotificationModel)

def count : Nat := self.rows.length

def rowCount (parentValid : Bool) : Nat := if parentValid then 0 else self.count

def Row.field (row : Row) : Role → String
  | .time => row.time
  | .level => row.level
  | .title => row.title
  | .message => row.message

/-- `data`, for an index with this row; `none` is the invalid `QVariant`. -/
def data (index : Int) (role : Role) : Option String :=
  if index < 0 ∨ (self.rows.length : Int) ≤ index then none
  else (self.rows[index.toNat]?).map (·.field role)

/-- `rows_.push_front`, between `beginInsertRows` and `endInsertRows`. -/
def pushFront (row : Row) : NotificationModel :=
  { self with rows := row :: self.rows, changes := self.changes ++ [.inserted 0 [row]] }

/-- `rows_.removeLast` when there are too many, with its two signals. -/
def trim : NotificationModel :=
  if 50 < self.rows.length then
    { self with
      rows := self.rows.dropLast
      changes := self.changes ++ [.removed (self.rows.length - 1) 1] }
  else self

def countChanged : NotificationModel := { self with counts := self.counts ++ [self.count] }

def append (event : EventMessage) : NotificationModel :=
  ((self.pushFront (row formatTime event)).trim).countChanged

def clear : NotificationModel :=
  { self with rows := [], changes := self.changes ++ [RowChange.reset []] }.countChanged

inductive Op where
  | append (event : EventMessage)
  | clear

def apply : Op → NotificationModel
  | .append event => self.append formatTime event
  | .clear => self.clear

/-- The model after these calls of its slots. -/
def after (ops : List Op) : NotificationModel := ops.foldl (apply formatTime) {}

/-- The events appended since the last `Clear`, oldest first. -/
def sinceClear (ops : List Op) : List EventMessage :=
  ops.foldl (fun events op =>
    match op with
    | .append event => events ++ [event]
    | .clear => []) []

/-- The events shown: the newest fifty, newest first. -/
def newest (events : List EventMessage) : List EventMessage := events.reverse.take 50

/-- The model after these calls shows the newest events, and its signals say so. -/
structure Shows (ops : List Op) (model : NotificationModel) : Prop where
  rows : model.rows = (newest (sinceClear ops)).map (row formatTime)
  /-- A view that follows the row signals has the rows of the model. -/
  mirrored : RowChange.follow [] model.changes = some model.rows
  /-- Each call announces the number of rows it leaves. -/
  counted : model.counts =
    (List.range ops.length).map fun n => (newest (sinceClear (ops.take (n + 1)))).length

@[simp] theorem sinceClear_append (ops : List Op) (event : EventMessage) :
    sinceClear (ops ++ [.append event]) = sinceClear ops ++ [event] := by
  rw [sinceClear, List.foldl_append]
  rfl

@[simp] theorem sinceClear_clear (ops : List Op) : sinceClear (ops ++ [.clear]) = [] := by
  rw [sinceClear, List.foldl_append]
  rfl

theorem newest_concat (events : List EventMessage) (event : EventMessage) :
    newest (events ++ [event]) = event :: (newest events).take 49 := by
  rw [newest, newest, List.reverse_concat, List.take_succ_cons, List.take_take]
  rfl

theorem length_newest_le (events : List EventMessage) : (newest events).length ≤ 50 := by
  rw [newest, List.length_take]
  exact Nat.min_le_left _ _

/-- One more call announces its count after those of the calls before. -/
theorem counted_snoc {ops : List Op} {op : Op} {counts : List Nat}
    (counted : counts =
      (List.range ops.length).map fun n => (newest (sinceClear (ops.take (n + 1)))).length) :
    counts ++ [(newest (sinceClear (ops ++ [op]))).length] =
      (List.range (ops ++ [op]).length).map fun n =>
        (newest (sinceClear ((ops ++ [op]).take (n + 1)))).length := by
  rw [List.length_append, List.length_singleton, List.range_succ, List.map_append, counted]
  congr 1
  · apply List.map_congr_left
    intro n inRange
    rw [List.take_append_of_le_length (List.mem_range.mp inRange)]
  · rw [List.map_singleton, List.take_of_length_le (by rw [List.length_append]; rfl)]

variable {formatTime} {self}

theorem mirrored_pushFront (mirrored : RowChange.follow [] self.changes = some self.rows)
    (row : Row) : RowChange.follow [] (self.pushFront row).changes =
      some (self.pushFront row).rows := by
  rw [pushFront, RowChange.follow_append, mirrored, Option.bind_some, RowChange.follow_cons,
    RowChange.apply_inserted_zero]
  rfl

theorem mirrored_trim (mirrored : RowChange.follow [] self.changes = some self.rows) :
    RowChange.follow [] self.trim.changes = some self.trim.rows := by
  rw [trim]
  split
  · rename_i many
    have nonempty : self.rows ≠ [] := List.length_pos_iff.mp (Nat.zero_lt_of_lt many)
    rw [RowChange.follow_append, mirrored, Option.bind_some, RowChange.follow_cons,
      RowChange.apply_removed_last nonempty]
    rfl
  · exact mirrored

@[simp] theorem counts_trim (self : NotificationModel) : self.trim.counts = self.counts := by
  rw [trim]
  split
  · rfl
  · rfl

/-- One row too many is removed at the end. -/
theorem rows_trim (few : self.rows.length ≤ 51) : self.trim.rows = self.rows.take 50 := by
  rw [trim]
  split
  · rename_i many
    have length : self.rows.length - 1 = 50 := by omega
    rw [← length]
    exact List.dropLast_eq_take
  · rename_i fits
    rw [List.take_of_length_le (Nat.not_lt.mp fits)]

/-- `Append` shows the event at the top and lets go of the oldest of too many. -/
theorem Shows.append {ops : List Op} (shows_ : Shows formatTime ops self)
    (event : EventMessage) :
    Shows formatTime (ops ++ [.append event]) (self.append formatTime event) := by
  have rows : (self.append formatTime event).rows =
      (newest (sinceClear (ops ++ [.append event]))).map (row formatTime) := by
    have few : (self.pushFront (row formatTime event)).rows.length ≤ 51 := by
      rw [pushFront, List.length_cons, shows_.rows, List.length_map]
      exact Nat.succ_le_succ (length_newest_le _)
    rw [sinceClear_append, newest_concat, List.map_cons, List.map_take, ← shows_.rows]
    exact rows_trim few
  constructor
  · exact rows
  · exact mirrored_trim (mirrored_pushFront shows_.mirrored _)
  · rw [← counted_snoc shows_.counted, ← List.length_map (f := row formatTime), ← rows]
    have counts := (self.pushFront (row formatTime event)).counts_trim
    rw [NotificationModel.append, countChanged, counts]
    rfl

/-- `Clear` shows nothing. -/
theorem Shows.clear {ops : List Op} (shows_ : Shows formatTime ops self) :
    Shows formatTime (ops ++ [.clear]) self.clear := by
  constructor
  · rw [sinceClear_clear]
    rfl
  · rw [NotificationModel.clear, countChanged, RowChange.follow_append, shows_.mirrored]
    rfl
  · rw [← counted_snoc shows_.counted, sinceClear_clear]
    rfl

theorem Shows.rowCount {ops : List Op} (shows_ : Shows formatTime ops self) :
    self.rowCount false = (newest (sinceClear ops)).length := by
  rw [NotificationModel.rowCount, if_neg Bool.false_ne_true, count, shows_.rows,
    List.length_map]

/-- What `data` answers for the roles of the rows shown. -/
theorem Shows.data {ops : List Op} (shows_ : Shows formatTime ops self) (index : Int)
    (role : Role) : self.data index role =
      if index < 0 then none
      else ((newest (sinceClear ops))[index.toNat]?).map fun event =>
        (row formatTime event).field role := by
  have read : (self.rows[index.toNat]?).map (·.field role) =
      ((newest (sinceClear ops))[index.toNat]?).map fun event =>
        (row formatTime event).field role := by
    rw [shows_.rows, List.getElem?_map, Option.map_map]
    rfl
  rw [NotificationModel.data, ← read]
  by_cases negative : index < 0
  · rw [if_pos (.inl negative), if_pos negative]
  · rw [if_neg negative]
    split
    · rename_i outside
      have beyond : self.rows.length ≤ index.toNat := by omega
      rw [List.getElem?_eq_none beyond]
      rfl
    · rfl

/-- After any calls of its slots the model shows the newest fifty events since the last
`Clear`, and its views know. -/
theorem shows_after (formatTime : Int → String) (ops : List Op) :
    Shows formatTime ops (after formatTime ops) := by
  induction ops using List.reverseRecOn with
  | nil => exact ⟨rfl, rfl, rfl⟩
  | append_singleton ops op ih =>
      rw [after, List.foldl_append]
      cases op with
      | append event => exact ih.append event
      | clear => exact ih.clear

end NotificationModel

end HWPanel.Client
