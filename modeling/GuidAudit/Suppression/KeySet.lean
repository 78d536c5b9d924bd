import GuidAudit.Text.Basic
import GuidAudit.Text.Units

namespace GuidAudit

/-- What a key is written with. -/
inductive KeyForm where
  | fileStructProperty
  | structProperty
  | anyStructProperty
  | file
  deriving DecidableEq, Repr

def KeyForm.label : KeyForm → String
  | .fileStructProperty => "file-struct-property"
  | .structProperty => "struct-property"
  | .anyStructProperty => "any-struct-property"
  | .file => "file"

/-- The key of the given form for a property. -/
def KeyForm.key (file owner name : String) : KeyForm → String
  | .fileStructProperty => file ++ ":" ++ owner ++ "::" ++ name
  | .structProperty => owner ++ "::" ++ name
  | .anyStructProperty => "*::" ++ name
  | .file => file

/-- The order in which keys are looked for, the most specific first. -/
def KeyForm.all : List KeyForm :=
  [.fileStructProperty, .structProperty, .anyStructProperty, .file]

/-- A key that would suppress a given property. -/
structure Candidate where
  key : String
  form : KeyForm
  deriving DecidableEq, Repr

def candidates (file owner name : String) : List Candidate :=
  KeyForm.all.map fun form => { key := form.key file owner name, form }

/-- What stands before the last `::`. -/
def beforeLastScope? : List Char → Option (List Char)
  | [] => none
  | c :: s =>
    match beforeLastScope? s with
    | some head => some (c :: head)
    | none => if c = ':' ∧ s.head? = some ':' then some [] else none

/-- The form that the separators of a key suggest. -/
def KeyForm.ofKey (key : UnitText) : KeyForm :=
  let s := key.shown.toList
  if (after? "*::".toList s).isSome then .anyStructProperty
  else
    match beforeLastScope? s with
    | none => .file
    | some head => if ':' ∈ head then .fileStructProperty else .structProperty

/-- A comment entry begins, after blanks, with a number sign. -/
def isComment (key : UnitText) : Bool := (skipBlanks key.shown.toList).head? == some '#'

/-- A set of keys in the order in which they were first seen. -/
structure KeySet where
  toList : List UnitText
  nodup : toList.Nodup

namespace KeySet

instance : Membership UnitText KeySet := ⟨fun s key => key ∈ s.toList⟩

instance (key : UnitText) (s : KeySet) : Decidable (key ∈ s) :=
  inferInstanceAs (Decidable (key ∈ s.toList))

def empty : KeySet := ⟨[], .nil⟩

instance : Inhabited KeySet := ⟨empty⟩

/-- A new key goes to the end. -/
def insert (s : KeySet) (key : UnitText) : KeySet :=
  if h : key ∈ s then s
  else
    ⟨s.toList ++ [key], List.nodup_append.2
      ⟨s.nodup, by simp, by
        rintro a ha b hb rfl
        obtain rfl := List.mem_singleton.1 hb
        exact h ha⟩⟩

def insertAll (s : KeySet) (keys : List UnitText) : KeySet := keys.foldl insert s

def ofList (keys : List UnitText) : KeySet := empty.insertAll keys

theorem mem_insert {s : KeySet} {key k : UnitText} : k ∈ s.insert key ↔ k ∈ s ∨ k = key := by
  unfold insert
  split
  next h => exact ⟨.inl, fun hk => hk.elim id fun e => e ▸ h⟩
  next => exact List.mem_append.trans (or_congr Iff.rfl List.mem_singleton)

theorem mem_insertAll {s : KeySet} {keys : List UnitText} {k : UnitText} :
    k ∈ s.insertAll keys ↔ k ∈ s ∨ k ∈ keys := by
  unfold insertAll
  induction keys generalizing s with
  | nil => simp
  | cons key keys ih => simp [ih, mem_insert, or_assoc]

theorem mem_ofList {keys : List UnitText} {k : UnitText} : k ∈ ofList keys ↔ k ∈ keys := by
  have h : k ∉ empty := List.not_mem_nil
  simp [ofList, mem_insertAll, h]

/-- The first candidate of a property that is in the set. -/
def find? (s : KeySet) (file owner name : String) : Option String :=
  ((candidates file owner name).find? fun c => (c.key : UnitText) ∈ s).map (·.key)

end KeySet

/-- A key that suppressed nothing, with the form that it seems to have. A record of it names the
key first unless it says otherwise. -/
structure UnusedKey where
  key : UnitText
  form : KeyForm
  formFirst : Bool := false
  deriving DecidableEq, Repr

def UnusedKey.display (u : UnusedKey) : UnitText :=
  u.key ++ UnitText.ofString (" (" ++ u.form.label ++ ")")

/-- The keys that are neither comments nor matched, in their order. -/
def KeySet.unused (s matched : KeySet) : List UnusedKey :=
  (s.toList.filter fun key => !isComment key && key ∉ matched).map fun key =>
    { key, form := .ofKey key }

end GuidAudit
