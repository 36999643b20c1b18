import ErpGateway.Sql.Harvest
import Mathlib.Algebra.BigOperators.Group.List.Basic
import Mathlib.Algebra.GroupWithZero.Nat
import Mathlib.Tactic.Common

/-! What a harvest holds after any calls, refused rows among them: the first rows that its cap admits, each
in the result set that was begun last. -/

namespace ErpGateway.Sql.Harvest

inductive Call where
  | start
  | push (row : Row)

def call (h : Harvest) : Call → Harvest × Option Failure
  | .start => (h.startTable, none)
  | .push row =>
    match h.pushRow row with
    | .ok h' => (h', none)
    | .error failure => (h, some failure)

def after (h : Harvest) : List Call → Harvest
  | [] => h
  | c :: calls => (h.call c).1.after calls

def gather (h : Harvest) : List Call → Except Failure Harvest
  | [] => .ok h
  | c :: calls =>
    match h.call c with
    | (h', none) => h'.gather calls
    | (_, some failure) => .error failure

def callsOf (tables : List Table) : List Call :=
  tables.flatMap fun table => .start :: table.map .push

section History

def pushed : List Call → List Row
  | [] => []
  | .start :: calls => pushed calls
  | .push row :: calls => row :: pushed calls

def leading : List Call → List Row
  | [] => []
  | .start :: _ => []
  | .push row :: calls => row :: leading calls

def begun : List Call → List Table
  | [] => []
  | .start :: calls => leading calls :: begun calls
  | .push _ :: calls => begun calls

def grouped (calls : List Call) : List Table :=
  if (leading calls).isEmpty then begun calls else leading calls :: begun calls

def admitted : Option Nat → List Call → List Call
  | _, [] => []
  | room, .start :: calls => .start :: admitted room calls
  | none, .push row :: calls => .push row :: admitted none calls
  | some 0, .push _ :: calls => admitted (some 0) calls
  | some (room + 1), .push row :: calls => .push row :: admitted (some room) calls

def firstRows (room : Option Nat) (rows : List Row) : List Row :=
  room.elim rows rows.take

lemma pushed_admitted (room : Option Nat) (calls : List Call) :
    pushed (admitted room calls) = firstRows room (pushed calls) := by
  induction calls generalizing room with
  | nil => cases room <;> simp [admitted, pushed, firstRows]
  | cons c calls ih =>
    cases c with
    | start => simpa only [admitted, pushed] using ih room
    | push row =>
      rcases room with _ | _ | room
      · simpa [admitted, pushed, firstRows] using ih none
      · simpa [admitted, pushed, firstRows] using ih (some 0)
      · simpa [admitted, pushed, firstRows] using ih (some room)

lemma flatten_begun (calls : List Call) : leading calls ++ (begun calls).flatten = pushed calls := by
  induction calls with
  | nil => rfl
  | cons c calls ih =>
    cases c with
    | start => simpa only [leading, begun, pushed, List.nil_append, List.flatten_cons] using ih
    | push row => simpa only [leading, begun, pushed, List.cons_append, List.cons.injEq, true_and] using ih

lemma flatten_grouped (calls : List Call) : (grouped calls).flatten = pushed calls := by
  rw [grouped, ← flatten_begun]
  split
  · simp_all
  · rfl

end History

section Step

variable (h : Harvest)

def room : Option Nat :=
  h.cap.map (· - h.total)

lemma tables_startTable : h.startTable.tables = h.tables ++ [[]] := by
  simp [startTable, tables]

lemma pushRow_of_full {h : Harvest} (hroom : h.room = some 0) (row : Row) :
    ∃ n, h.cap = some n ∧ h.pushRow row = .error (rowLimitFailure n) := by
  obtain ⟨n, hcap, hfull⟩ := Option.map_eq_some_iff.mp hroom
  refine ⟨n, hcap, ?_⟩
  simp only [pushRow, hcap]
  exact if_pos (by omega)

lemma pushRow_of_room {h : Harvest} (hroom : h.room ≠ some 0) (row : Row) :
    h.pushRow row = .ok (h.addRow row) := by
  cases hcap : h.cap with
  | none => simp only [pushRow, hcap]
  | some n =>
    simp only [pushRow, hcap]
    refine if_neg fun hfull => hroom ?_
    simp only [room, hcap, Option.map_some, Option.some.injEq]
    omega

lemma room_addRow (row : Row) : (h.addRow row).room = h.room.map (· - 1) := by
  cases hcap : h.cap with
  | none => simp [room, addRow, hcap]
  | some n =>
    simp only [room, addRow, hcap, Option.map_some, Option.some.injEq]
    omega

def joined (calls : List Call) : List Table :=
  match h.newest with
  | [] => grouped calls
  | table :: older => (older.map List.reverse).reverse ++ (table.reverse ++ leading calls) :: begun calls

lemma joined_nil : h.joined [] = h.tables := by
  rw [joined, tables]
  cases h.newest with
  | nil => rfl
  | cons table older => simp [leading, begun]

lemma joined_start (calls : List Call) : h.joined (.start :: calls) = h.startTable.joined calls := by
  rw [joined, joined]
  cases hnewest : h.newest with
  | nil => simp [startTable, hnewest, grouped, leading, begun]
  | cons table older => simp [startTable, hnewest, leading, begun]

lemma joined_push (row : Row) (calls : List Call) :
    h.joined (.push row :: calls) = (h.addRow row).joined calls := by
  rw [joined, joined]
  cases hnewest : h.newest with
  | nil => simp [addRow, hnewest, grouped, leading, begun]
  | cons table older => simp [addRow, hnewest, leading, begun]

end Step

section Run

lemma call_push_of_full {h : Harvest} (hroom : h.room = some 0) (row : Row) :
    ∃ n, h.cap = some n ∧ h.call (.push row) = (h, some (rowLimitFailure n)) := by
  obtain ⟨n, hcap, hpush⟩ := pushRow_of_full hroom row
  exact ⟨n, hcap, by rw [call, hpush]⟩

lemma call_push_of_room {h : Harvest} (hroom : h.room ≠ some 0) (row : Row) :
    h.call (.push row) = (h.addRow row, none) := by
  rw [call, pushRow_of_room hroom row]

lemma cap_call (h : Harvest) (c : Call) : (h.call c).1.cap = h.cap := by
  cases c with
  | start => rfl
  | push row =>
    by_cases hroom : h.room = some 0
    · obtain ⟨n, -, hcall⟩ := call_push_of_full hroom row
      rw [hcall]
    · rw [call_push_of_room hroom row]
      rfl

lemma cap_after (h : Harvest) (calls : List Call) : (h.after calls).cap = h.cap := by
  induction calls generalizing h with
  | nil => rfl
  | cons c calls ih => exact (ih _).trans (cap_call h c)

/-- One call does to the result sets and to the room what the first of the calls does in the account of
all of them. -/
lemma tables_after (h : Harvest) (calls : List Call) :
    (h.after calls).tables = h.joined (admitted h.room calls) := by
  induction calls generalizing h with
  | nil =>
    rw [admitted]
    exact h.joined_nil.symm
  | cons c calls ih =>
    rw [after, ih]
    cases c with
    | start =>
      rw [admitted, joined_start]
      rfl
    | push row =>
      by_cases hroom : h.room = some 0
      · -- a refused row is left out of the account, too
        obtain ⟨n, -, hcall⟩ := call_push_of_full hroom row
        rw [hcall, hroom, admitted]
      · rw [call_push_of_room hroom row, room_addRow]
        rcases hleft : h.room with _ | _ | left
        · rw [admitted, joined_push]
          rfl
        · exact absurd hleft hroom
        · rw [admitted, joined_push]
          rfl

lemma total_after (h : Harvest) (calls : List Call) :
    (h.after calls).total = h.total + (firstRows h.room (pushed calls)).length := by
  induction calls generalizing h with
  | nil => cases hleft : h.room <;> simp [after, pushed, firstRows]
  | cons c calls ih =>
    rw [after, ih]
    cases c with
    | start => rfl
    | push row =>
      by_cases hroom : h.room = some 0
      · obtain ⟨n, -, hcall⟩ := call_push_of_full hroom row
        simp [hcall, hroom, firstRows]
      · rw [call_push_of_room hroom row, room_addRow]
        rcases hleft : h.room with _ | _ | left
        · simp [addRow, firstRows, pushed]
          omega
        · exact absurd hleft hroom
        · simp [addRow, firstRows, pushed]
          omega

lemma gather_eq (h : Harvest) (calls : List Call) :
    (firstRows h.room (pushed calls) = pushed calls → h.gather calls = .ok (h.after calls)) ∧
      (firstRows h.room (pushed calls) ≠ pushed calls →
        ∃ n, h.cap = some n ∧ h.gather calls = .error (rowLimitFailure n)) := by
  induction calls generalizing h with
  | nil => cases hleft : h.room <;> simp [gather, after, pushed, firstRows]
  | cons c calls ih =>
    cases c with
    | start => exact ih h.startTable
    | push row =>
      by_cases hroom : h.room = some 0
      · obtain ⟨n, hcap, hcall⟩ := call_push_of_full hroom row
        refine ⟨fun hall => ?_, fun _ => ⟨n, hcap, by rw [gather, hcall]⟩⟩
        simp [hroom, firstRows, pushed] at hall
      · have hcall := call_push_of_room hroom row
        have hrow : firstRows h.room (row :: pushed calls) =
            row :: firstRows (h.addRow row).room (pushed calls) := by
          rw [room_addRow]
          rcases hleft : h.room with _ | _ | left
          · rfl
          · exact absurd hleft hroom
          · rfl
        rw [gather, hcall, after, hcall, pushed, hrow, ne_eq, List.cons.injEq, eq_self, true_and]
        exact ih (h.addRow row)

end Run

section Account

variable (cap : Option Nat) (calls : List Call)

lemma admitted_of_fits {room : Option Nat} {calls : List Call}
    (h : firstRows room (pushed calls) = pushed calls) : admitted room calls = calls := by
  induction calls generalizing room with
  | nil => cases room <;> rfl
  | cons c calls ih =>
    cases c with
    | start => rw [admitted, ih h]
    | push row =>
      rcases room with _ | _ | room
      · rw [admitted, ih rfl]
      · simp [firstRows, pushed] at h
      · rw [admitted, ih]
        simpa [firstRows, pushed] using h

lemma firstRows_eq_iff {room : Option Nat} {rows : List Row} :
    firstRows room rows = rows ↔ ∀ n, room = some n → rows.length ≤ n := by
  cases room <;> simp [firstRows]

@[simp] lemma room_empty : (empty cap).room = cap := by
  cases cap <;> rfl

lemma tables_after_empty : ((empty cap).after calls).tables = grouped (admitted cap calls) := by
  rw [tables_after, room_empty]
  rfl

lemma gather_empty :
    ((∀ n, cap = some n → (pushed calls).length ≤ n) →
        (empty cap).gather calls = .ok ((empty cap).after calls) ∧
          ((empty cap).after calls).tables = grouped calls) ∧
      ∀ n, cap = some n → n < (pushed calls).length →
        (empty cap).gather calls = .error (rowLimitFailure n) := by
  have hgather := gather_eq (empty cap) calls
  rw [room_empty] at hgather
  constructor
  · intro hfits
    have hall := firstRows_eq_iff.mpr hfits
    exact ⟨hgather.1 hall, by rw [tables_after_empty, admitted_of_fits hall]⟩
  · intro n hn hlt
    obtain ⟨m, hm, herror⟩ := hgather.2 fun hall => Nat.not_le.mpr hlt (firstRows_eq_iff.mp hall n hn)
    obtain rfl : m = n := Option.some.inj (hm.symm.trans hn)
    exact herror

structure Accounts (h : Harvest) : Prop where
  total_eq_sum : h.total = (h.tables.map List.length).sum
  total_eq_min : h.total = cap.elim (pushed calls).length (min (pushed calls).length)
  /-- The rows that came first, each once and in their order. -/
  rows : h.tables.flatten = firstRows cap (pushed calls)
  tables : h.tables = grouped (admitted cap calls)
  started : h.startTable.tables = h.tables ++ [[]]
  refuses_iff : ∀ row failure, (h.call (.push row)).2 = some failure ↔
    cap = some h.tables.flatten.length ∧ failure = rowLimitFailure h.tables.flatten.length
  unchanged : ∀ row failure, (h.call (.push row)).2 = some failure → (h.call (.push row)).1 = h
  refuses_on : ∀ row failure, (h.call (.push row)).2 = some failure →
    ∀ later row', ((h.after (.push row :: later)).call (.push row')).2 = some failure
  gathers : (∀ n, cap = some n → (pushed calls).length ≤ n) →
    (empty cap).gather calls = .ok h ∧ h.tables = grouped calls
  stops : ∀ n, cap = some n → n < (pushed calls).length →
    (empty cap).gather calls = .error (rowLimitFailure n)

variable {cap calls}

lemma call_push_eq_some_iff {h : Harvest} {row : Row} {failure : Failure} :
    (h.call (.push row)).2 = some failure ↔
      h.room = some 0 ∧ ∃ n, h.cap = some n ∧ failure = rowLimitFailure n := by
  by_cases hroom : h.room = some 0
  · obtain ⟨n, hcap, hcall⟩ := call_push_of_full hroom row
    simp [hroom, hcap, hcall, eq_comm]
  · simp [hroom, call_push_of_room hroom row]

lemma room_after_of_full {h : Harvest} (hroom : h.room = some 0) (calls : List Call) :
    (h.after calls).room = some 0 := by
  induction calls generalizing h with
  | nil => exact hroom
  | cons c calls ih =>
    apply ih
    cases c with
    | start => exact hroom
    | push row =>
      obtain ⟨n, -, hcall⟩ := call_push_of_full hroom row
      rw [hcall]
      exact hroom

theorem accounts_after (cap : Option Nat) (calls : List Call) :
    Accounts cap calls ((empty cap).after calls) := by
  have hcap : ((empty cap).after calls).cap = cap := cap_after _ _
  have htables := tables_after_empty cap calls
  have hrows : ((empty cap).after calls).tables.flatten = firstRows cap (pushed calls) := by
    rw [htables, flatten_grouped, pushed_admitted]
  have htotal : ((empty cap).after calls).total = (firstRows cap (pushed calls)).length := by
    rw [total_after, room_empty]
    exact Nat.zero_add _
  have hgather := gather_empty cap calls
  -- how the harvest came about does not matter any more
  generalize (empty cap).after calls = h at *
  constructor
  case total_eq_sum => rw [← List.length_flatten, hrows, htotal]
  case total_eq_min =>
    rw [htotal]
    cases cap with
    | none => rfl
    | some n => exact List.length_take.trans (Nat.min_comm _ _)
  case rows => exact hrows
  case tables => exact htables
  case started => exact h.tables_startTable
  case refuses_iff =>
    intro row failure
    rw [call_push_eq_some_iff, hrows, ← htotal, room, hcap]
    cases cap with
    | none => simp
    | some n =>
      have hle : h.total ≤ n := by
        rw [htotal, firstRows]
        exact List.length_take_le _ _
      constructor
      · rintro ⟨hroom, m, hm, rfl⟩
        obtain rfl := Option.some.inj hm
        have hfull : n - h.total = 0 := Option.some.inj hroom
        obtain rfl : n = h.total := by omega
        exact ⟨rfl, rfl⟩
      · rintro ⟨hn, rfl⟩
        obtain rfl := Option.some.inj hn
        exact ⟨by simp, _, rfl, rfl⟩
  case unchanged =>
    intro row failure hrefused
    obtain ⟨hroom, -⟩ := call_push_eq_some_iff.mp hrefused
    obtain ⟨n, -, hcall⟩ := call_push_of_full hroom row
    rw [hcall]
  case refuses_on =>
    intro row failure hrefused later row'
    obtain ⟨hroom, n, hn, rfl⟩ := call_push_eq_some_iff.mp hrefused
    exact call_push_eq_some_iff.mpr ⟨room_after_of_full hroom _, n, (cap_after _ _).trans hn, rfl⟩
  case gathers => exact hgather.1
  case stops => exact hgather.2

example (a b c : Row) :
    ((empty (some 2)).after [.push a, .start, .start, .push b, .push c, .start]).tables =
      [[a], [], [b], []] :=
  rfl

end Account

section Tables

lemma gather_append (h : Harvest) (calls later : List Call) :
    h.gather (calls ++ later) = (h.gather calls).bind fun h' => h'.gather later := by
  induction calls generalizing h with
  | nil => rfl
  | cons c calls ih =>
    rw [List.cons_append, gather, gather]
    rcases h.call c with ⟨h', _ | failure⟩
    · exact ih h'
    · rfl

lemma pushRows_eq_gather (h : Harvest) (table : Table) :
    h.pushRows table = h.gather (table.map .push) := by
  induction table generalizing h with
  | nil => rfl
  | cons row table ih =>
    rw [pushRows, List.map_cons, gather, call]
    cases h.pushRow row with
    | ok h' => exact ih h'
    | error failure => rfl

lemma callsOf_cons (table : Table) (tables : List Table) :
    callsOf (table :: tables) = .start :: (table.map .push ++ callsOf tables) := by
  simp [callsOf]

lemma pushTables_eq_gather (h : Harvest) (tables : List Table) :
    h.pushTables tables = h.gather (callsOf tables) := by
  induction tables generalizing h with
  | nil => rfl
  | cons table tables ih =>
    rw [callsOf_cons, pushTables, pushRows_eq_gather]
    refine Eq.trans ?_ (gather_append h.startTable (table.map .push) (callsOf tables)).symm
    congr 1
    funext h'
    exact ih h'

lemma pushed_rows_append (table : Table) (calls : List Call) :
    pushed (table.map .push ++ calls) = table ++ pushed calls := by
  induction table with
  | nil => rfl
  | cons row table ih => rw [List.map_cons, List.cons_append, pushed, ih, List.cons_append]

lemma leading_rows_append (table : Table) (calls : List Call) :
    leading (table.map .push ++ calls) = table ++ leading calls := by
  induction table with
  | nil => rfl
  | cons row table ih => rw [List.map_cons, List.cons_append, leading, ih, List.cons_append]

lemma begun_rows_append (table : Table) (calls : List Call) :
    begun (table.map .push ++ calls) = begun calls := by
  induction table with
  | nil => rfl
  | cons row table ih => rw [List.map_cons, List.cons_append, begun, ih]

lemma pushed_callsOf (tables : List Table) : pushed (callsOf tables) = tables.flatten := by
  induction tables with
  | nil => rfl
  | cons table tables ih => rw [callsOf_cons, pushed, pushed_rows_append, ih, List.flatten_cons]

lemma leading_callsOf (tables : List Table) : leading (callsOf tables) = [] := by
  cases tables with
  | nil => rfl
  | cons table tables => rw [callsOf_cons, leading]

lemma grouped_callsOf (tables : List Table) : grouped (callsOf tables) = tables := by
  rw [grouped, leading_callsOf, List.isEmpty_nil, if_pos rfl]
  induction tables with
  | nil => rfl
  | cons table tables ih =>
    rw [callsOf_cons, begun, leading_rows_append, begun_rows_append, leading_callsOf, List.append_nil, ih]

theorem map_tables_pushTables (cap : Option Nat) (tables : List Table) :
    ((∀ n, cap = some n → tables.flatten.length ≤ n) →
        ((empty cap).pushTables tables).map Harvest.tables = .ok tables) ∧
      ∀ n, cap = some n → n < tables.flatten.length →
        (empty cap).pushTables tables = .error (rowLimitFailure n) := by
  obtain ⟨hfits, hstops⟩ := gather_empty cap (callsOf tables)
  rw [pushed_callsOf] at hfits hstops
  rw [pushTables_eq_gather]
  refine ⟨fun hlength => ?_, hstops⟩
  obtain ⟨hok, htables⟩ := hfits hlength
  rw [hok, Except.map, htables, grouped_callsOf]

end Tables

end ErpGateway.Sql.Harvest
