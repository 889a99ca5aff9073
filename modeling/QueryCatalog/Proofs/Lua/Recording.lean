import Mathlib.Data.List.GetD
import QueryCatalog.Proofs.Lists
import QueryCatalog.Proofs.Lua.Untouched
import QueryCatalog.Proofs.Outcome

/-!
The values that `sp` records. The count in the table is the number of calls so far, and below it
every value that is not nil stands under the number of its call. Reading up to the count gives the
values back, the gaps as nil. Of a script nothing is asked but that its own steps leave the table
alone; the induction is on the course of its run.
-/
namespace QueryCatalog.Lua

/-! Runs that leave the records to `sp`. -/

/-- The entries of the table that holds the records, if there is one. -/
def State.records (s : State) : List (Value × Value) :=
  match s.global recordName with
  | .table ref => (s.table ref).entries
  | _ => []

/-- The records and the variable for their table are as they were. -/
def State.KeepsRecords (s s' : State) : Prop :=
  s'.global recordName = s.global recordName ∧ s'.records = s.records

instance decidableEqBytes : DecidableEq ByteArray := fun a b =>
  decidable_of_iff (a.data = b.data) ByteArray.ext_iff.symm

deriving instance DecidableEq for Numeral, Value

instance (s s' : State) : Decidable (s.KeepsRecords s') :=
  inferInstanceAs (Decidable (_ ∧ _))

namespace Course

variable {α : Type} (sp : Value → State → Except Fault State)

/-- The values that `sp` is called with, in the order of the calls. -/
def calls : Course α → List Value
  | .fault _ => []
  | .done _ _ => []
  | .call v s next => v :: (next (sp v s)).calls

/-- From the state that it is given up to a call or the end, and from what a call leaves up to the
next one, the code itself spares the records. -/
def SparesRecords : Course α → State → Prop
  | .fault _, _ => True
  | .done _ s, before => before.KeepsRecords s
  | .call v s next, before =>
    before.KeepsRecords s ∧ (next (sp v s)).SparesRecords ((sp v s).toOption.getD s)

instance decidableSparesRecords : ∀ (c : Course α) (before : State),
    Decidable (c.SparesRecords sp before)
  | .fault _, _ => .isTrue trivial
  | .done _ s, before => inferInstanceAs (Decidable (before.KeepsRecords s))
  | .call v s next, before =>
    have := decidableSparesRecords (next (sp v s)) ((sp v s).toOption.getD s)
    inferInstanceAs (Decidable (before.KeepsRecords s ∧ _))

end Course

namespace Script

variable (script : Script) (b : Bindings)

def calls : List Value := (script.start (.ofBindings b)).calls State.record

structure SparesRecords : Prop where
  course : (script.start (.ofBindings b)).SparesRecords State.record (.ofBindings b)

instance : Decidable (script.SparesRecords b) :=
  have := Course.decidableSparesRecords State.record (script.start (.ofBindings b)) (.ofBindings b)
  decidable_of_iff _ ⟨SparesRecords.mk, SparesRecords.course⟩

end Script

/-! Recorded values. -/

/-- Values under the numbers from a position on; nil leaves a gap. -/
def numbered (position : Nat) : List Value → List (Value × Value)
  | [] => []
  | v :: rest =>
    if v.isNil then numbered (position + 1) rest
    else (.int position, v) :: numbered (position + 1) rest

def recordEntries (values : List Value) : List (Value × Value) :=
  (.text countName, .int values.length) :: numbered 1 values

/-- A state in which these values are recorded in this table, and no others. -/
structure State.Holds (record : Nat) (values : List Value) (s : State) : Prop where
  global_eq : s.global recordName = .table record
  ne_globals : record ≠ globalRef
  lt_size : record < s.tables.size
  entries_eq : (s.table record).entries = recordEntries values

/-! Numbered entries. -/

theorem toInt_ofInt {n : Nat} (h : n < 2 ^ 63) : (Int64.ofInt n).toInt = n :=
  Int64.toInt_ofInt_of_le (by omega) (by omega)

theorem same_int {i j : Nat} (hi : i < 2 ^ 63) (hj : j < 2 ^ 63) :
    (Value.int i).same (.int j) = true ↔ i = j := by
  constructor
  · intro hsame
    have hword : Int64.ofInt i = Int64.ofInt j := beq_iff_eq.mp hsame
    have hint := congrArg Int64.toInt hword
    rw [toInt_ofInt hi, toInt_ofInt hj] at hint
    exact Int.ofNat_inj.mp hint
  · rintro rfl
    exact beq_self_eq_true (Int64.ofInt i)

theorem numbered_append (vs ws : List Value) : ∀ position,
    numbered position (vs ++ ws) = numbered position vs ++ numbered (position + vs.length) ws := by
  induction vs with
  | nil => exact fun _ => rfl
  | cons v rest ih =>
    intro position
    have hlength : position + (v :: rest).length = position + 1 + rest.length := by
      rw [List.length_cons]
      omega
    rw [List.cons_append, numbered, numbered, ih, hlength]
    by_cases hnil : v.isNil = true
    · rw [if_pos hnil, if_pos hnil]
    · rw [if_neg hnil, if_neg hnil, List.cons_append]

theorem key_of_mem_numbered {values : List Value} {entry : Value × Value} :
    ∀ {position}, entry ∈ numbered position values →
      ∃ i, position ≤ i ∧ i < position + values.length ∧ entry.1 = .int i := by
  induction values with
  | nil => exact fun h => absurd h List.not_mem_nil
  | cons v rest ih =>
    intro position h
    have hlater : entry ∈ numbered (position + 1) rest →
        ∃ i, position ≤ i ∧ i < position + (v :: rest).length ∧ entry.1 = .int i := by
      intro hrest
      obtain ⟨i, hlow, hhigh, hkey⟩ := ih hrest
      exact ⟨i, by omega, by rw [List.length_cons]; omega, hkey⟩
    rw [numbered] at h
    by_cases hnil : v.isNil = true
    · rw [if_pos hnil] at h
      exact hlater h
    · rw [if_neg hnil, List.mem_cons] at h
      rcases h with rfl | hrest
      · exact ⟨position, le_rfl, by rw [List.length_cons]; omega, rfl⟩
      · exact hlater hrest

theorem key_differs_numbered {values : List Value} {position i : Nat} (hi : i < 2 ^ 63)
    (hsize : position + values.length ≤ 2 ^ 63)
    (hout : i < position ∨ position + values.length ≤ i) :
    ∀ entry ∈ numbered position values, entry.1.same (.int i) = false := by
  intro entry hentry
  obtain ⟨j, hlow, hhigh, hkey⟩ := key_of_mem_numbered hentry
  rw [hkey]
  refine Bool.eq_false_iff.mpr fun hsame => ?_
  have hequal := (same_int (by omega) hi).mp hsame
  omega

namespace Table

/-- The count is raised and the value is put under it. -/
theorem recorded_entries {t : Table} {values : List Value} (v : Value)
    (h : t.entries = recordEntries values) (hcount : values.length + 1 < 2 ^ 63) :
    ((t.set (.int (values.length + 1 : Nat)) v).set (.text countName)
      (.int (values.length + 1 : Nat))).entries = recordEntries (values ++ [v]) := by
  have habsent : ∀ entry ∈ numbered 1 values,
      entry.1.same (.int (values.length + 1 : Nat)) = false :=
    key_differs_numbered hcount (by omega) (.inr (by omega))
  have hstored : (t.set (.int (values.length + 1 : Nat)) v).entries =
      (.text countName, .int values.length) :: numbered 1 (values ++ [v]) := by
    change putEntry (.int (values.length + 1 : Nat)) v t.entries = _
    rw [h, recordEntries, putEntry]
    change (.text countName, .int values.length) ::
      putEntry (.int (values.length + 1 : Nat)) v (numbered 1 values) = _
    rw [putEntry_absent habsent, numbered_append, Nat.add_comm 1]
    rfl
  have hcountKey : (Value.text countName).same (.text countName) = true := same_text_iff.mpr rfl
  rw [set_text, hstored, putEntry, if_pos hcountKey, recordEntries, List.length_append]
  rfl

end Table

namespace State

variable {r : Nat} {values : List Value} {s s' : State}

/-! Steps of a run. -/

theorem table_withTable_of_ne {ref other : Nat} (hne : ref ≠ other) (s : State) (t : Table) :
    (s.withTable ref t).table other = s.table other := by
  simp [withTable, table, Array.getD_eq_getD_getElem?, hne]

theorem table_withTable_self {ref : Nat} (hlt : ref < s.tables.size) (t : Table) :
    (s.withTable ref t).table ref = t := by
  simp [withTable, table, Array.getD_eq_getD_getElem?, hlt]

theorem Holds.recordTable_eq (h : s.Holds r values) : s.recordTable = .ok r := by
  rw [recordTable, h.global_eq]

theorem Holds.countOf_eq (h : s.Holds r values) :
    countOf ((s.table r).get (.text countName)) = .ok (Int64.ofInt values.length) := by
  have hget : (s.table r).get (.text countName) = .int values.length := by
    rw [Table.get_of_entries, h.entries_eq, recordEntries, Table.get_cons]
    exact if_pos (Table.same_text_iff.mpr rfl)
  rw [hget]
  rfl

theorem Holds.record_eq (h : s.Holds r values) (v : Value) :
    s.record v = .ok (s.withTable r (((s.table r).set (.int (values.length + 1 : Nat)) v).set
      (.text countName) (.int (values.length + 1 : Nat)))) := by
  -- words add as integers do, so the step itself needs no bound; reading the count back does
  have hnext : Int64.ofInt values.length + 1 = Int64.ofInt (values.length + 1 : Nat) :=
    (Int64.ofInt_add values.length 1).symm
  simp only [record, h.recordTable_eq, h.countOf_eq, hnext, bind, Except.bind]
  rfl

/-- A call does not fail and adds its value. -/
theorem Holds.record (h : s.Holds r values) (hcount : values.length + 1 < 2 ^ 63) (v : Value) :
    ∃ s', s.record v = .ok s' ∧ s'.Holds r (values ++ [v]) := by
  refine ⟨_, h.record_eq v, ?_, h.ne_globals, ?_, ?_⟩
  · rw [global, table_withTable_of_ne h.ne_globals]
    exact h.global_eq
  · exact h.lt_size.trans_eq Array.size_setIfInBounds.symm
  · rw [table_withTable_self h.lt_size]
    exact Table.recorded_entries v h.entries_eq hcount

end State

namespace Script

variable {script : Script} {values : List Value} {s : State}

/-- A field that is missing, one that is not, and no argument. -/
def gapsCode : String :=
  "return 'a = ' .. sp(p.missing) .. ' AND b = ' .. sp(p.b) .. ' AND c = ' .. sp()"

/-- The script of this code. -/
def gaps : Script := (compile gapsCode).toOption.getD ⟨fun s => .done [] s⟩

end Script

end QueryCatalog.Lua
