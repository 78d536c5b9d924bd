import GuidAudit.Proofs.Json.Printer
import GuidAudit.Proofs.Search
import GuidAudit.Suppression.File

namespace GuidAudit

open Json

variable {w : Workspace} {path text : String} {name : UnitText} {keys : List UnitText} {index : Nat}
  {members : List (UnitText × Value)} {items : List Value} {value : Value}

namespace KeySet

theorem toList_insert {s : KeySet} {key : UnitText} (h : s.toList = keys.eraseDups) :
    (s.insert key).toList = (keys ++ [key]).eraseDups := by
  have hmem : key ∈ s ↔ key ∈ keys := by
    change key ∈ s.toList ↔ key ∈ keys
    rw [h, List.mem_eraseDups]
  rw [List.eraseDups_append, insert]
  split
  next hk => simp [List.removeAll, h, hmem.1 hk]
  next hk =>
    have hnew : key ∉ keys := fun hk' => hk (hmem.2 hk')
    simp [List.removeAll, h, hnew, List.eraseDups_cons]

theorem toList_insertAll {s : KeySet} {more : List UnitText} (h : s.toList = keys.eraseDups) :
    (s.insertAll more).toList = (keys ++ more).eraseDups := by
  unfold insertAll
  induction more generalizing s keys with
  | nil => rw [List.foldl_nil, List.append_nil, h]
  | cons key more ih =>
    rw [List.foldl_cons, ih (toList_insert h), List.append_assoc, List.singleton_append]

theorem toList_ofList (keys : List UnitText) : (ofList keys).toList = keys.eraseDups := by
  have hempty : empty.toList = ([] : List UnitText).eraseDups := rfl
  rw [ofList, toList_insertAll hempty, List.nil_append]

end KeySet

namespace Json

/-- The member that counts among those of its name. -/
def LastMember (name : UnitText) (members : List (UnitText × Value)) (value : Value) : Prop :=
  ∃ before after, members = before ++ (name, value) :: after ∧ ∀ m ∈ after, m.1 ≠ name

theorem member?_eq_some_iff : member? name members = some value ↔
    LastMember name members value := by
  rw [member?, List.lookup_eq_some_iff]
  constructor
  · intro h
    obtain ⟨after, before, hm, hafter⟩ := h
    refine ⟨before.reverse, after.reverse, ?_, ?_⟩
    · simpa using congrArg List.reverse hm
    · intro m hm
      simpa [ne_comm] using hafter m (List.mem_reverse.1 hm)
  · intro h
    obtain ⟨before, after, rfl, hafter⟩ := h
    refine ⟨after.reverse, before.reverse, by simp, ?_⟩
    intro m hm
    simpa [ne_comm] using hafter m (List.mem_reverse.1 hm)

theorem member?_eq_none_iff : member? name members = none ↔ ∀ m ∈ members, m.1 ≠ name := by
  rw [member?, List.lookup_eq_none_iff]
  simp [ne_comm]

end Json

namespace Suppressions

/-- The text is a JSON object, and its last member `suppressions` lists these keys. One without
such a member lists none. -/
def Lists (text : String) (keys : List UnitText) : Prop :=
  ∃ members, Denotes text (.object members) ∧
    ((∀ m ∈ members, m.1 ≠ "suppressions") ∧ keys = [] ∨
      LastMember "suppressions" members (.array (keys.map .string)))

/-- The entry is not a string, and all entries before it are. -/
def FirstFault (items : List Value) (index : Nat) : Prop :=
  (∃ value, items[index]? = some value ∧ ∀ key, value ≠ .string key) ∧
    ∀ i < index, ∃ key, items[i]? = some (.string key)

/-- What is wrong with a text that lists no keys. -/
inductive Fails (text : String) : Problem → Prop
  | notJson : (∀ value, ¬ Denotes text value) → Fails text .notJson
  | notObject {value : Value} : Denotes text value → (∀ members, value ≠ .object members) →
      Fails text .notObject
  | notArray {members : List (UnitText × Value)} {value : Value} :
      Denotes text (.object members) → LastMember "suppressions" members value →
      (∀ items, value ≠ .array items) → Fails text .notArray
  | notString {members : List (UnitText × Value)} {items : List Value} {index : Nat} :
      Denotes text (.object members) → LastMember "suppressions" members (.array items) →
      FirstFault items index → Fails text (.notString index)

theorem FirstFault.zero (h : ∀ key, value ≠ .string key) : FirstFault (value :: items) 0 :=
  ⟨⟨value, rfl, h⟩, nofun⟩

theorem firstFault_cons {key : UnitText} :
    FirstFault (.string key :: items) (index + 1) ↔ FirstFault items index := by
  constructor
  · intro h
    obtain ⟨hfault, hstrings⟩ := h
    exact ⟨hfault, fun i hi => hstrings (i + 1) (by omega)⟩
  · intro h
    obtain ⟨hfault, hstrings⟩ := h
    refine ⟨hfault, fun i hi => ?_⟩
    cases i with
    | zero => exact ⟨key, rfl⟩
    | succ i => exact hstrings i (by omega)

theorem entriesFrom_sound (start : Nat) (items : List Value) :
    (∃ keys, entriesFrom start items = .ok keys ∧ items = keys.map .string) ∨
      ∃ index, entriesFrom start items = .error (.notString (start + index)) ∧
        FirstFault items index := by
  induction items generalizing start with
  | nil => exact .inl ⟨[], rfl, rfl⟩
  | cons value items ih =>
    cases value with
    | string key =>
      rcases ih (start + 1) with ⟨keys, hkeys, rfl⟩ | ⟨index, herror, hindex⟩
      · exact .inl ⟨key :: keys, by rw [entriesFrom, hkeys], rfl⟩
      · refine .inr ⟨index + 1, ?_, firstFault_cons.2 hindex⟩
        rw [entriesFrom, herror, Nat.add_assoc, Nat.add_comm 1]
    | null | bool | number | array | object => exact .inr ⟨0, rfl, .zero nofun⟩

theorem entriesFrom_map (start : Nat) (keys : List UnitText) :
    entriesFrom start (keys.map .string) = .ok keys := by
  induction keys generalizing start with
  | nil => rfl
  | cons key keys ih => rw [List.map_cons, entriesFrom, ih]

theorem FirstFault.entriesFrom_eq (h : FirstFault items index) (start : Nat) :
    entriesFrom start items = .error (.notString (start + index)) := by
  induction items generalizing index start with
  | nil =>
    obtain ⟨⟨value, hvalue, _⟩, _⟩ := h
    cases hvalue
  | cons value items ih =>
    cases index with
    | zero =>
      obtain ⟨⟨first, hfirst, hne⟩, _⟩ := h
      cases hfirst
      cases value with
      | string key => exact absurd rfl (hne key)
      | null | bool | number | array | object => rfl
    | succ index =>
      obtain ⟨key, hkey⟩ := h.2 0 (Nat.zero_lt_succ index)
      cases hkey
      rw [entriesFrom, ih (firstFault_cons.1 h), Nat.add_assoc, Nat.add_comm 1]

theorem ofText_of_denotes (h : Denotes text value) : ofText text = ofValue value := by
  rw [ofText, Value.ofText?_eq_some_iff.2 h]

theorem ofValue_of_lastMember (h : LastMember "suppressions" members (.array items)) :
    ofValue (.object members) = entriesFrom 0 items := by
  rw [ofValue, member?_eq_some_iff.2 h]

/-- What the grammar makes of a text. -/
def Gives (text : String) : Except Problem (List UnitText) → Prop
  | .ok keys => Lists text keys
  | .error problem => Fails text problem

theorem gives_entriesFrom (hdenotes : Denotes text (.object members))
    (hlast : LastMember "suppressions" members (.array items)) :
    Gives text (entriesFrom 0 items) := by
  rcases entriesFrom_sound 0 items with ⟨keys, hkeys, rfl⟩ | ⟨index, herror, hfault⟩
  · rw [hkeys]
    exact ⟨members, hdenotes, .inr hlast⟩
  · rw [herror, Nat.zero_add]
    exact .notString hdenotes hlast hfault

theorem gives_ofValue (hdenotes : Denotes text value) : Gives text (ofValue value) := by
  cases value with
  | null | bool | number | string | array => exact .notObject hdenotes nofun
  | object members =>
    rw [ofValue]
    cases hmember : member? "suppressions" members with
    | none => exact ⟨members, hdenotes, .inl ⟨member?_eq_none_iff.1 hmember, rfl⟩⟩
    | some value =>
      have hlast := member?_eq_some_iff.1 hmember
      cases value with
      | array items => exact gives_entriesFrom hdenotes hlast
      | null | bool | number | string | object => exact .notArray hdenotes hlast nofun

theorem gives_ofText (text : String) : Gives text (ofText text) := by
  cases hvalue : Value.ofText? text with
  | some value =>
    have hdenotes := Value.ofText?_eq_some_iff.1 hvalue
    rw [ofText_of_denotes hdenotes]
    exact gives_ofValue hdenotes
  | none =>
    rw [ofText, hvalue]
    refine .notJson fun value hdenotes => ?_
    rw [Value.ofText?_eq_some_iff.2 hdenotes] at hvalue
    cases hvalue

theorem Lists.ofText_eq (h : Lists text keys) : ofText text = .ok keys := by
  obtain ⟨members, hdenotes, ⟨hnone, rfl⟩ | hlast⟩ := h
  · rw [ofText_of_denotes hdenotes, ofValue, member?_eq_none_iff.2 hnone]
  · rw [ofText_of_denotes hdenotes, ofValue_of_lastMember hlast, entriesFrom_map]

theorem Fails.ofText_eq {problem : Problem} (h : Fails text problem) :
    ofText text = .error problem := by
  cases h with
  | notJson hnone =>
    cases hvalue : Value.ofText? text with
    | none => rw [ofText, hvalue]
    | some value => exact absurd (Value.ofText?_eq_some_iff.1 hvalue) (hnone value)
  | @notObject value hdenotes hne =>
    rw [ofText_of_denotes hdenotes]
    cases value with
    | object members => exact absurd rfl (hne members)
    | null | bool | number | string | array => rfl
  | @notArray members value hdenotes hlast hne =>
    rw [ofText_of_denotes hdenotes, ofValue, member?_eq_some_iff.2 hlast]
    cases value with
    | array items => exact absurd rfl (hne items)
    | null | bool | number | string | object => rfl
  | notString hdenotes hlast hfault =>
    rw [ofText_of_denotes hdenotes, ofValue_of_lastMember hlast, hfault.entriesFrom_eq,
      Nat.zero_add]

theorem ofText_eq_iff {result : Except Problem (List UnitText)} :
    ofText text = result ↔ Gives text result := by
  constructor
  · intro h
    rw [← h]
    exact gives_ofText text
  · intro h
    cases result with
    | ok keys => exact Lists.ofText_eq h
    | error problem => exact Fails.ofText_eq h

theorem read_eq_ok_iff : read w path = .ok keys ↔
    ∃ bytes, w.read path = .ok bytes ∧ Lists (decodeLenient bytes) keys := by
  rw [read, Workspace.read_eq]
  cases w.read path with
  | error error => simp
  | ok bytes => simp [ofText_eq_iff, Gives]

theorem read_eq_error_iff {problem : Problem} : read w path = .error problem ↔
    (∃ error, w.read path = .error error ∧ problem = .unreadable error) ∨
      ∃ bytes, w.read path = .ok bytes ∧ Fails (decodeLenient bytes) problem := by
  rw [read, Workspace.read_eq]
  cases w.read path with
  | error error => simp [eq_comm]
  | ok bytes => simp [ofText_eq_iff, Gives]

end Suppressions

namespace Workspace

variable {bytes : ByteArray}

theorem ne_empty_of_read (h : w.read path = .ok bytes) : path ≠ "" := by
  rintro rfl
  cases h

end Workspace

namespace Suppressions

theorem load_of_read (h : read w path = .ok keys) : load w (some path) = (.ofList keys, []) := by
  obtain ⟨bytes, hbytes, _⟩ := read_eq_ok_iff.1 h
  have hpath := Workspace.ne_empty_of_read hbytes
  have hentry := Workspace.read_eq_ok_iff.1 hbytes
  simp [load, hpath, hentry, h]

theorem load_of_error {problem : Problem} (hpath : path ≠ "") (h : read w path = .error problem) :
    ∃ warning, load w (some path) = (.empty, [.warning warning]) := by
  simp only [load, String.isEmpty_iff, hpath, if_false, h]
  split <;> exact ⟨_, rfl⟩

theorem lists_render (keys : List UnitText) : Lists (render keys) keys :=
  ⟨_, (toValue keys).denotes_render, .inr ⟨[], [], rfl, nofun⟩⟩

/-- A file gives all of its keys or none. The grammar alone decides which, and a file that gives
none is complained about once, for a fault that it has. -/
theorem load_all_or_nothing (w : Workspace) (path : String) :
    (∀ keys, read w path = .ok keys ↔
      ∃ bytes, w.read path = .ok bytes ∧ Lists (decodeLenient bytes) keys) ∧
    (∀ problem, read w path = .error problem ↔
      (∃ error, w.read path = .error error ∧ problem = .unreadable error) ∨
        ∃ bytes, w.read path = .ok bytes ∧ Fails (decodeLenient bytes) problem) ∧
    (∀ problem : Problem, (problem.fault path).label = "ConfigError" ∧
      (problem.fault path).path? = some path) ∧
    (∀ index : Nat, ((Problem.notString index).fault path).message =
      "suppressions[" ++ decimal index ++ "]: Entry must be a string") ∧
    (match read w path with
      | .ok keys =>
        (load w (some path)).1.toList = keys.eraseDups ∧ (load w (some path)).2 = []
      | .error _ =>
        (load w (some path)).1.toList = [] ∧
          if path = "" then (load w (some path)).2 = []
          else ∃ warning, (load w (some path)).2 = [.warning warning]) ∧
    load w none = (.empty, []) ∧
    ∀ keys, w.read path = .ok (render keys).toUTF8 →
      (load w (some path)).1.toList = keys.eraseDups ∧ (load w (some path)).2 = [] := by
  have hload {keys : List UnitText} (h : read w path = .ok keys) :
      (load w (some path)).1.toList = keys.eraseDups ∧ (load w (some path)).2 = [] := by
    rw [load_of_read h]
    exact ⟨KeySet.toList_ofList keys, rfl⟩
  refine ⟨fun keys => read_eq_ok_iff, fun problem => read_eq_error_iff, fun problem => ⟨rfl, rfl⟩,
    fun index => rfl, ?_, rfl, fun keys hbytes => ?_⟩
  · cases h : read w path with
    | ok keys => exact hload h
    | error problem =>
      dsimp only
      split
      · -- An empty path cannot be read, but it is not complained about.
        rename_i hpath
        subst hpath
        exact ⟨rfl, rfl⟩
      · rename_i hpath
        obtain ⟨warning, hwarning⟩ := load_of_error hpath h
        rw [hwarning]
        exact ⟨rfl, warning, rfl⟩
  · apply hload
    rw [read_eq_ok_iff]
    refine ⟨_, hbytes, ?_⟩
    rw [decodeLenient_toUTF8]
    exact lists_render keys

end Suppressions

end GuidAudit
