import FailureDispatch.Proofs.Config.Notation

/-!
# What a document gives

A document is a tree of entries, and reading it is a search among them.  Here it is said
what a document gives without searching: an entry gives a node under a name, and a field is
given where some section gives it.  None of this depends on the order of the entries.

The search looks at the entries in order and answers with the first one it finds.  It agrees
with what is given because nothing is given twice; so the two are compared only for entries
whose keys are good.
-/

namespace FailureDispatch
namespace Config

open Yaml (Node ScalarStyle)

/-- The node is a scalar with this text. -/
def Spells (node : Node) (text : String) : Prop := ∃ style tag, node = .scalar text style tag

/-- The entries of a mapping.  An empty node has none. -/
inductive Holds : Node → List (Node × Node) → Prop where
  | empty (tag : Option String) : Holds (.scalar "" .plain tag) []
  | mapping (entries : List (Node × Node)) : Holds (.mapping entries) entries

/-- One of the entries gives the node under this name. -/
def Given (entries : List (Node × Node)) (name : String) (node : Node) : Prop :=
  ∃ entry ∈ entries, Spells entry.1 name ∧ entry.2 = node

/-- Every key is a known name, and none is repeated. -/
structure KeysGood (known : List String) (entries : List (Node × Node)) : Prop where
  known : ∀ entry ∈ entries, ∃ name ∈ known, Spells entry.1 name
  distinct : entries.Pairwise fun entry other =>
    ∀ name, Spells entry.1 name → ¬ Spells other.1 name

/-- A section of the document gives the node for one of its fields. -/
def GivenAt (entries : List (Node × Node)) (sectionName fieldName : String) (node : Node) : Prop :=
  ∃ home inner, Given entries sectionName home ∧ Holds home inner ∧ Given inner fieldName node

/-! ## Keys -/

theorem Spells.unique {node : Node} {text other : String} (spells : Spells node text)
    (again : Spells node other) : text = other := by
  rcases spells with ⟨_, _, rfl⟩
  rcases again with ⟨_, _, same⟩
  cases same
  rfl

theorem text?_eq_some_iff (node : Node) (text : String) :
    text? node = some text ↔ Spells node text := by
  cases node with
  | scalar other style tag => simp [text?, Spells]
  | sequence _ | mapping _ | enclosing => simp [text?, Spells]

theorem Holds.unique {node : Node} {entries others : List (Node × Node)}
    (holds : Holds node entries) (again : Holds node others) : entries = others := by
  cases holds <;> cases again <;> rfl

/-- The field is read from the entry. -/
def Keyed (entry : Node × Node) (field : String × Node) : Prop :=
  Spells entry.1 field.1 ∧ entry.2 = field.2

theorem fields?_eq_some_iff (entries : List (Node × Node)) (fields : Fields) :
    fields? entries = some fields ↔ List.Forall₂ Keyed entries fields := by
  have each (entry : Node × Node) (field : String × Node) :
      (text? entry.1).map (fun key => (key, entry.2)) = some field ↔ Keyed entry field := by
    rcases field with ⟨name, node⟩
    rw [Option.map_eq_some_iff, Keyed]
    simp only [text?_eq_some_iff, Prod.mk.injEq]
    constructor
    · rintro ⟨key, spells, rfl, same⟩
      exact ⟨spells, same⟩
    · rintro ⟨spells, same⟩
      exact ⟨name, spells, rfl, same⟩
  rw [fields?, mapM_eq_some_iff]
  simp only [each]

section Keys

variable {known : List String} {entries : List (Node × Node)} {fields : Fields}

/-- Every field stems from an entry, and every entry is read. -/
theorem mem_of_keyed (keyed : List.Forall₂ Keyed entries fields) (name : String) (node : Node) :
    (name, node) ∈ fields ↔ Given entries name node := by
  unfold Given
  induction keyed with
  | nil => simp
  | @cons entry field _ _ here _ inductionHypothesis =>
      rcases here with ⟨spells, same⟩
      rw [List.mem_cons, inductionHypothesis]
      constructor
      · rintro (rfl | ⟨other, member, given⟩)
        · exact ⟨entry, List.mem_cons_self, spells, same⟩
        · exact ⟨other, List.mem_cons_of_mem _ member, given⟩
      · rintro ⟨other, member, named, given⟩
        rcases List.mem_cons.mp member with rfl | later
        · exact Or.inl (Prod.ext (named.unique spells) (given.symm.trans same))
        · exact Or.inr ⟨other, later, named, given⟩

theorem mem_names_of_keyed (keyed : List.Forall₂ Keyed entries fields) (name : String) :
    name ∈ fields.map (·.1) ↔ ∃ entry ∈ entries, Spells entry.1 name := by
  rw [List.mem_map]
  constructor
  · rintro ⟨⟨_, node⟩, member, rfl⟩
    rcases (mem_of_keyed keyed _ node).mp member with ⟨entry, present, spells, _⟩
    exact ⟨entry, present, spells⟩
  · rintro ⟨entry, present, spells⟩
    exact ⟨_, (mem_of_keyed keyed name entry.2).mpr ⟨entry, present, spells, rfl⟩, rfl⟩

theorem known_iff_of_keyed (keyed : List.Forall₂ Keyed entries fields) :
    (∀ field ∈ fields, field.1 ∈ known) ↔
      ∀ entry ∈ entries, ∃ name ∈ known, Spells entry.1 name := by
  induction keyed with
  | nil => simp
  | @cons entry field _ _ here _ inductionHypothesis =>
      rw [List.forall_mem_cons, List.forall_mem_cons, inductionHypothesis]
      apply and_congr_left
      intro _
      constructor
      · intro listed
        exact ⟨field.1, listed, here.1⟩
      · rintro ⟨name, listed, spells⟩
        exact here.1.unique spells ▸ listed

theorem nodup_iff_of_keyed (keyed : List.Forall₂ Keyed entries fields) :
    (fields.map (·.1)).Nodup ↔ entries.Pairwise fun entry other =>
      ∀ name, Spells entry.1 name → ¬ Spells other.1 name := by
  induction keyed with
  | nil => simp
  | @cons entry field _ _ here rest inductionHypothesis =>
      rw [List.map_cons, List.nodup_cons, List.pairwise_cons, inductionHypothesis,
        mem_names_of_keyed rest]
      apply and_congr_left
      intro _
      constructor
      · intro new other member name spells again
        exact new ⟨other, member, spells.unique here.1 ▸ again⟩
      · rintro apart ⟨other, member, again⟩
        exact apart other member field.1 here.1 again

/-- The keys of the fields are good if those of the entries are. -/
theorem keysGood_iff (keyed : List.Forall₂ Keyed entries fields) :
    keysGood known fields = true ↔ KeysGood known entries := by
  have split : keysGood known fields = true ↔
      (∀ field ∈ fields, field.1 ∈ known) ∧ (fields.map (·.1)).Nodup := by
    simp [keysGood]
  rw [split, known_iff_of_keyed keyed, nodup_iff_of_keyed keyed]
  exact ⟨fun both => ⟨both.1, both.2⟩, fun good => ⟨good.known, good.distinct⟩⟩

/-- Entries with good keys are read. -/
theorem KeysGood.keyed (good : KeysGood known entries) :
    ∃ fields, List.Forall₂ Keyed entries fields := by
  have named := good.known
  clear good
  induction entries with
  | nil => exact ⟨[], .nil⟩
  | cons entry rest inductionHypothesis =>
      rcases List.forall_mem_cons.mp named with ⟨⟨name, _, spells⟩, others⟩
      rcases inductionHypothesis others with ⟨fields, keyed⟩
      exact ⟨(name, entry.2) :: fields, .cons ⟨spells, rfl⟩ keyed⟩

theorem lookup_eq_some_iff (keyed : List.Forall₂ Keyed entries fields)
    (good : KeysGood known entries) (name : String) (node : Node) :
    fields.lookup name = some node ↔ Given entries name node := by
  have distinct := (nodup_iff_of_keyed keyed).mpr good.distinct
  rw [← mem_of_keyed keyed, List.lookup_eq_some_iff]
  constructor
  · rintro ⟨before, after, rfl, _⟩
    exact List.mem_append_right _ List.mem_cons_self
  · intro member
    rcases List.append_of_mem member with ⟨before, after, rfl⟩
    refine ⟨before, after, rfl, ?_⟩
    intro field earlier
    rw [bne_iff_ne]
    rintro rfl
    rw [List.map_append, List.map_cons] at distinct
    exact (List.nodup_append.mp distinct).2.2 _ (List.mem_map_of_mem earlier) _
      List.mem_cons_self rfl

theorem lookup_eq_none_iff (keyed : List.Forall₂ Keyed entries fields)
    (good : KeysGood known entries) (name : String) :
    fields.lookup name = none ↔ ∀ node, ¬ Given entries name node := by
  simp only [← lookup_eq_some_iff keyed good, Option.eq_none_iff_forall_ne_some]

end Keys

/-! ## Sections -/

section Sections

variable {known : List String} {node : Node} {entries : List (Node × Node)} {fields : Fields}

theorem section?_of_holds (holds : Holds node entries) : section? known node = some fields ↔
    KeysGood known entries ∧ List.Forall₂ Keyed entries fields := by
  cases holds with
  | empty tag =>
      constructor
      · intro read
        cases (show some [] = some fields from read)
        exact ⟨⟨nofun, .nil⟩, .nil⟩
      · rintro ⟨_, keyed⟩
        cases keyed
        rfl
  | mapping entries =>
      rw [section?, Option.filter_eq_some_iff, fields?_eq_some_iff]
      constructor
      · rintro ⟨keyed, good⟩
        exact ⟨(keysGood_iff keyed).mp good, keyed⟩
      · rintro ⟨good, keyed⟩
        exact ⟨keyed, (keysGood_iff keyed).mpr good⟩

/-- A section is read only if it is empty or a mapping. -/
theorem exists_holds_of_section? (read : section? known node = some fields) :
    ∃ entries, Holds node entries := by
  cases node with
  | scalar text style tag =>
      rw [section?, Option.ite_none_right_eq_some, String.isEmpty_iff] at read
      rcases read with ⟨⟨rfl, rfl⟩, _⟩
      exact ⟨[], .empty tag⟩
  | mapping entries => exact ⟨entries, .mapping entries⟩
  | sequence _ | enclosing => cases read

/-- A section that is given is a mapping with good keys, or empty. -/
def SectionGood (entries : List (Node × Node)) (name : String) (known : List String) : Prop :=
  ∀ node, Given entries name node → ∃ inner, Holds node inner ∧ KeysGood known inner

/-- The fields are those that the section gives. -/
def Opened (entries : List (Node × Node)) (name : String) (fields : Fields) : Prop :=
  ∀ fieldName node, fields.lookup fieldName = some node ↔ GivenAt entries name fieldName node

theorem field?_eq_some_iff {α : Type} {read : Node → Option α} {name : String}
    {default value : α} :
    field? fields name read default = some value ↔
      (∃ node, fields.lookup name = some node ∧ read node = some value) ∨
        (fields.lookup name = none ∧ value = default) := by
  unfold field?
  cases fields.lookup name with
  | none => simp [eq_comm]
  | some node => simp

section Inner

variable {rootKnown : List String} {sections : Fields} {name : String}
  (keyed : List.Forall₂ Keyed entries sections) (good : KeysGood rootKnown entries)
include keyed good

/-- What is read of a section is what it gives. -/
theorem opened_of_field? (read : field? sections name (section? known) [] = some fields) :
    SectionGood entries name known ∧ Opened entries name fields := by
  rw [field?_eq_some_iff] at read
  simp only [lookup_eq_some_iff keyed good, lookup_eq_none_iff keyed good] at read
  rcases read with ⟨home, given, read⟩ | ⟨absent, rfl⟩
  · have only {other : Node} (again : Given entries name other) : other = home := by
      rw [← lookup_eq_some_iff keyed good] at given again
      exact Option.some.inj (again.symm.trans given)
    rcases exists_holds_of_section? read with ⟨inner, holds⟩
    rcases (section?_of_holds holds).mp read with ⟨goodInner, keyedInner⟩
    constructor
    · intro other again
      rw [only again]
      exact ⟨inner, holds, goodInner⟩
    · intro fieldName node
      rw [lookup_eq_some_iff keyedInner goodInner]
      constructor
      · intro givenInner
        exact ⟨home, inner, given, holds, givenInner⟩
      · rintro ⟨other, others, again, holdsOther, givenInner⟩
        rw [only again] at holdsOther
        rw [holds.unique holdsOther]
        exact givenInner
  · constructor
    · intro home given
      exact absurd given (absent home)
    · intro fieldName node
      refine iff_of_false nofun ?_
      rintro ⟨home, _, given, _⟩
      exact absent home given

/-- A good section is read. -/
theorem exists_field?_of_good (goodSection : SectionGood entries name known) :
    ∃ fields, field? sections name (section? known) [] = some fields := by
  cases found : sections.lookup name with
  | none => exact ⟨[], field?_eq_some_iff.mpr (Or.inr ⟨found, rfl⟩)⟩
  | some home =>
      rcases goodSection home ((lookup_eq_some_iff keyed good name home).mp found) with
        ⟨inner, holds, goodInner⟩
      rcases goodInner.keyed with ⟨fields, keyedInner⟩
      exact ⟨fields, field?_eq_some_iff.mpr
        (Or.inl ⟨home, found, (section?_of_holds holds).mpr ⟨goodInner, keyedInner⟩⟩)⟩

end Inner
end Sections

/-! ## Values -/

section Values

variable {α : Type} {entries : List (Node × Node)} {sectionName fieldName : String}

/-- A field has the given value, or its default if none is given. -/
def Field (entries : List (Node × Node)) (sectionName fieldName : String)
    (reads : Node → α → Prop) (default value : α) : Prop :=
  (∃ node, GivenAt entries sectionName fieldName node ∧ reads node value) ∨
    (∀ node, ¬ GivenAt entries sectionName fieldName node) ∧ value = default

/-- Whatever is given for a field can be read. -/
def FieldGood (entries : List (Node × Node)) (sectionName fieldName : String)
    (reads : Node → α → Prop) : Prop :=
  ∀ node, GivenAt entries sectionName fieldName node → ∃ value, reads node value

variable {reads : Node → α → Prop} {default value : α}

theorem FieldGood.exists_field (good : FieldGood entries sectionName fieldName reads) (default : α) :
    ∃ value, Field entries sectionName fieldName reads default value := by
  by_cases given : ∃ node, GivenAt entries sectionName fieldName node
  · rcases given with ⟨node, given⟩
    rcases good node given with ⟨value, read⟩
    exact ⟨value, Or.inl ⟨node, given, read⟩⟩
  · exact ⟨default, Or.inr ⟨not_exists.mp given, rfl⟩⟩

variable {fields : Fields} (opened : Opened entries sectionName fields)
include opened

theorem field?_of_opened {read : Node → Option α}
    (reading : ∀ node value, read node = some value ↔ reads node value) :
    field? fields fieldName read default = some value ↔
      Field entries sectionName fieldName reads default value := by
  have absent : fields.lookup fieldName = none ↔
      ∀ node, ¬ GivenAt entries sectionName fieldName node := by
    simp only [← opened fieldName, Option.eq_none_iff_forall_ne_some]
  simp only [field?_eq_some_iff, absent, opened fieldName, reading, Field]

/-- A field that has a value is one that can be read. -/
theorem Field.good (field : Field entries sectionName fieldName reads default value) :
    FieldGood entries sectionName fieldName reads := by
  intro node given
  rcases field with ⟨other, again, read⟩ | ⟨absent, _⟩
  · have same : node = other := by
      rw [← opened fieldName] at given again
      exact Option.some.inj (given.symm.trans again)
    exact ⟨value, same ▸ read⟩
  · exact absurd given (absent node)

end Values

end Config
end FailureDispatch
