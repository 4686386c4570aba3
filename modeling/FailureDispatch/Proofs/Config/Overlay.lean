import Mathlib
import FailureDispatch.Proofs.Config.Sections

/-!
# Documents override the defaults

A configuration document is read strictly: whatever is wrong with it, at any place, spoils
all of it.  A strict document determines settings, of which it overrides some and leaves the
others at their defaults.  Only then are the settings checked, so that a document which is
not strict is never refused for its values.

That the order of the entries does not matter need not be proved apart.  Both strictness and
what a strict document overrides are said of what it gives, and what is given has no order.
-/

namespace FailureDispatch
namespace Config

open Yaml (Node ScalarStyle)

/-- The nodes that can be integers: plain scalars, and literal blocks that are explicitly
tagged as integers. -/
inductive NumeralText : Node → String → Prop where
  | plain (text : String) (tag : Option String) : NumeralText (.scalar text .plain tag) text
  | block (text : String) : NumeralText (.scalar text .literal (some integerTag)) text

/-- The node is an integer of at most 64 bits. -/
def Numeral (node : Node) (value : Nat) : Prop :=
  ∃ text, NumeralText node text ∧ Written text.toList value ∧ value < 2 ^ 64

/-- Nothing is wrong with the entries of a document. -/
structure Strict (entries : List (Node × Node)) : Prop where
  keys : KeysGood ["failure_handling", "logging"] entries
  handling : SectionGood entries "failure_handling" ["shutdown_await_ms", "queue_capacity"]
  logging : SectionGood entries "logging" ["filter"]
  shutdownAwait : FieldGood entries "failure_handling" "shutdown_await_ms" Numeral
  queueCapacity : FieldGood entries "failure_handling" "queue_capacity" Numeral
  filter : FieldGood entries "logging" "filter" Spells

/-- The settings are the defaults, overridden by what the entries give. -/
structure Overlay (entries : List (Node × Node)) (settings : Settings) : Prop where
  shutdownAwait : Field entries "failure_handling" "shutdown_await_ms" Numeral 3000
    settings.shutdownAwait
  queueCapacity : Field entries "failure_handling" "queue_capacity" Numeral 1000
    settings.queueCapacity
  filter : Field entries "logging" "filter" Spells "info" settings.filter

/-- The answer accepts the settings, or names the first of them at fault. -/
structure Judged (settings : Settings) (answer : Except ConfigError Settings) : Prop where
  accepted : answer = .ok settings ↔
    0 < settings.queueCapacity ∧ 0 < settings.shutdownAwait ∧
      ∃ c ∈ settings.filter.toList, Text.isBlank c = false
  capacity : settings.queueCapacity = 0 →
    answer = .error (.invalid "failure_handling.queue_capacity" "must be greater than 0")
  wait : 0 < settings.queueCapacity → settings.shutdownAwait = 0 →
    answer = .error (.invalid "failure_handling.shutdown_await_ms" "must be greater than 0")
  filter : 0 < settings.queueCapacity → 0 < settings.shutdownAwait →
    (∀ c ∈ settings.filter.toList, Text.isBlank c = true) →
    answer = .error (.invalid "logging.filter" "must not be empty")

/-- The content is a single document, which is empty or a mapping with these entries.  A
content that has no document is an empty one. -/
def Reads (content : ByteArray) (entries : List (Node × Node)) : Prop :=
  ∃ text documents, String.fromUTF8? content = some text ∧
    Yaml.documents? text.toList = some documents ∧
    (documents = [] ∧ entries = [] ∨ ∃ root, documents = [root] ∧ Holds root entries)

/-! ## Reading -/

theorem number?_eq_some_iff (node : Node) (value : Nat) :
    number? node = some value ↔ Numeral node value := by
  have bounded : value ≤ maxInteger ↔ value < 2 ^ 64 := Nat.lt_succ_iff.symm
  have numeral {text : String} (is : NumeralText node text) :
      integer? text.toList = some value ↔ Numeral node value := by
    rw [integer?_eq_some_iff, bounded]
    constructor
    · intro both
      exact ⟨text, is, both⟩
    · rintro ⟨other, again, both⟩
      have same : other = text := by
        cases is <;> cases again <;> rfl
      exact same ▸ both
  have stranger (none : number? node = none) (is : ∀ text, ¬ NumeralText node text) :
      number? node = some value ↔ Numeral node value := by
    rw [none]
    exact iff_of_false nofun fun ⟨text, here, _⟩ => is text here
  cases node with
  | scalar text style tag =>
      cases style with
      | plain => exact numeral (.plain text tag)
      | literal =>
          by_cases tagged : tag = some integerTag
          · rw [number?, if_pos tagged]
            exact numeral (tagged ▸ .block text)
          · refine stranger (if_neg tagged) ?_
            rintro _ (_ | _)
            exact tagged rfl
      | _ => exact stranger rfl nofun
  | _ => exact stranger rfl nofun

section Settings

variable {root : Node} {entries : List (Node × Node)}

/-- The reader opens both sections and then looks up the three fields. -/
theorem settingsOf?_eq_some_iff_fields (settings : Settings) :
    settingsOf? root = some settings ↔
      ∃ sections handling logging, section? ["failure_handling", "logging"] root = some sections ∧
        field? sections "failure_handling"
          (section? ["shutdown_await_ms", "queue_capacity"]) [] = some handling ∧
        field? sections "logging" (section? ["filter"]) [] = some logging ∧
        field? handling "shutdown_await_ms" number? 3000 = some settings.shutdownAwait ∧
        field? handling "queue_capacity" number? 1000 = some settings.queueCapacity ∧
        field? logging "filter" text? "info" = some settings.filter := by
  simp only [settingsOf?, Option.bind_eq_bind, Option.bind_eq_some_iff, Option.pure_def,
    Option.some.injEq]
  constructor
  · rintro ⟨sections, readRoot, handling, readHandling, logging, readLogging, _, wait, _,
      capacity, _, filter, rfl⟩
    exact ⟨sections, handling, logging, readRoot, readHandling, readLogging, wait, capacity,
      filter⟩
  · rintro ⟨sections, handling, logging, readRoot, readHandling, readLogging, wait, capacity,
      filter⟩
    exact ⟨sections, readRoot, handling, readHandling, logging, readLogging, _, wait, _,
      capacity, _, filter, rfl⟩

/-- Settings are read of strict documents only, and they are what these override. -/
theorem settingsOf?_eq_some_iff (holds : Holds root entries) (settings : Settings) :
    settingsOf? root = some settings ↔ Strict entries ∧ Overlay entries settings := by
  rw [settingsOf?_eq_some_iff_fields]
  constructor
  · rintro ⟨sections, handling, logging, readRoot, readHandling, readLogging, wait, capacity,
      filter⟩
    rcases (section?_of_holds holds).mp readRoot with ⟨good, keyed⟩
    rcases opened_of_field? keyed good readHandling with ⟨goodHandling, openedHandling⟩
    rcases opened_of_field? keyed good readLogging with ⟨goodLogging, openedLogging⟩
    rw [field?_of_opened openedHandling number?_eq_some_iff] at wait capacity
    rw [field?_of_opened openedLogging text?_eq_some_iff] at filter
    exact ⟨⟨good, goodHandling, goodLogging, wait.good openedHandling,
      capacity.good openedHandling, filter.good openedLogging⟩, wait, capacity, filter⟩
  · rintro ⟨strict, overlay⟩
    rcases strict.keys.keyed with ⟨sections, keyed⟩
    rcases exists_field?_of_good keyed strict.keys strict.handling with ⟨handling, readHandling⟩
    rcases exists_field?_of_good keyed strict.keys strict.logging with ⟨logging, readLogging⟩
    have openedHandling := (opened_of_field? keyed strict.keys readHandling).2
    have openedLogging := (opened_of_field? keyed strict.keys readLogging).2
    exact ⟨sections, handling, logging, (section?_of_holds holds).mpr ⟨strict.keys, keyed⟩,
      readHandling, readLogging,
      (field?_of_opened openedHandling number?_eq_some_iff).mpr overlay.shutdownAwait,
      (field?_of_opened openedHandling number?_eq_some_iff).mpr overlay.queueCapacity,
      (field?_of_opened openedLogging text?_eq_some_iff).mpr overlay.filter⟩

theorem Strict.exists_overlay (strict : Strict entries) : ∃ settings, Overlay entries settings := by
  rcases strict.shutdownAwait.exists_field 3000 with ⟨shutdownAwait, wait⟩
  rcases strict.queueCapacity.exists_field 1000 with ⟨queueCapacity, capacity⟩
  rcases strict.filter.exists_field "info" with ⟨filter, text⟩
  exact ⟨{ shutdownAwait, queueCapacity, filter }, wait, capacity, text⟩

end Settings

/-! ## Checking -/

theorem isAllBlank_iff (text : String) :
    Text.isAllBlank text = true ↔ ∀ c ∈ text.toList, Text.isBlank c = true := by
  rw [Text.isAllBlank, List.all_eq_true]

theorem checked_judged (settings : Settings) : Judged settings (checked settings) := by
  have visible : (∃ c ∈ settings.filter.toList, Text.isBlank c = false) ↔
      ¬ Text.isAllBlank settings.filter = true := by
    rw [isAllBlank_iff]
    simp
  rw [checked, Settings.validate]
  by_cases capacity : settings.queueCapacity = 0
  · rw [if_pos capacity]
    exact ⟨iff_of_false nofun fun all => absurd capacity all.1.ne', fun _ => rfl,
      fun positive => absurd capacity positive.ne', fun positive => absurd capacity positive.ne'⟩
  · rw [if_neg capacity]
    by_cases wait : settings.shutdownAwait = 0
    · rw [if_pos wait]
      exact ⟨iff_of_false nofun fun all => absurd wait all.2.1.ne', fun zero => absurd zero capacity,
        fun _ _ => rfl, fun _ positive => absurd wait positive.ne'⟩
    · rw [if_neg wait]
      by_cases blank : Text.isAllBlank settings.filter = true
      · rw [if_pos blank]
        exact ⟨iff_of_false nofun fun all => visible.mp all.2.2 blank,
          fun zero => absurd zero capacity, fun _ zero => absurd zero wait, fun _ _ _ => rfl⟩
      · rw [if_neg blank]
        exact ⟨iff_of_true rfl
            ⟨Nat.pos_of_ne_zero capacity, Nat.pos_of_ne_zero wait, visible.mpr blank⟩,
          fun zero => absurd zero capacity, fun _ zero => absurd zero wait,
          fun _ _ all => absurd ((isAllBlank_iff _).mpr all) blank⟩

/-- No document at all is as good as an empty one. -/
theorem ofDocuments_nil : ofDocuments [] = ofDocuments [.empty] := rfl

theorem ofDocuments_singleton (root : Node) :
    ofDocuments [root] = match settingsOf? root with
      | some settings => checked settings
      | none => .error .parse := by
  cases read : settingsOf? root <;> simp only [ofDocuments, read]

/-- What a content gives determines the answer to it. -/
theorem ofFile_of_reads {content : ByteArray} {entries : List (Node × Node)}
    (reads : Reads content entries) : ∃ root, Holds root entries ∧
      ofFile (some content) = match settingsOf? root with
        | some settings => checked settings
        | none => .error .parse := by
  rcases reads with ⟨text, documents, decoded, parsed, ⟨rfl, rfl⟩ | ⟨root, rfl, holds⟩⟩
  · have answer : ofFile (some content) = ofDocuments [.empty] := by
      simp only [ofFile, decoded, ofText, parsed, ofDocuments_nil]
    exact ⟨.empty, .empty none, answer.trans (ofDocuments_singleton .empty)⟩
  · have answer : ofFile (some content) = ofDocuments [root] := by
      simp only [ofFile, decoded, ofText, parsed]
    exact ⟨root, holds, answer.trans (ofDocuments_singleton root)⟩

section Answers

variable {content : ByteArray} {entries : List (Node × Node)} (reads : Reads content entries)
include reads

theorem ofFile_of_not_strict (loose : ¬ Strict entries) :
    ofFile (some content) = .error .parse := by
  rcases ofFile_of_reads reads with ⟨root, holds, answer⟩
  rw [answer]
  cases read : settingsOf? root with
  | none => rfl
  | some settings => exact absurd ((settingsOf?_eq_some_iff holds settings).mp read).1 loose

theorem strict_of_accepted {settings : Settings} (accepted : ofFile (some content) = .ok settings) :
    Strict entries := by
  by_contra loose
  rw [ofFile_of_not_strict reads loose] at accepted
  cases accepted

theorem ofFile_of_overlay {settings : Settings} (strict : Strict entries)
    (overlay : Overlay entries settings) : ofFile (some content) = checked settings := by
  rcases ofFile_of_reads reads with ⟨root, holds, answer⟩
  rw [answer, (settingsOf?_eq_some_iff holds settings).mpr ⟨strict, overlay⟩]

theorem Strict.overlay_unique {settings other : Settings} (strict : Strict entries)
    (overlay : Overlay entries settings) (again : Overlay entries other) : other = settings := by
  rcases ofFile_of_reads reads with ⟨root, holds, _⟩
  have read := (settingsOf?_eq_some_iff holds settings).mpr ⟨strict, overlay⟩
  have readAgain := (settingsOf?_eq_some_iff holds other).mpr ⟨strict, again⟩
  exact Option.some.inj (readAgain.symm.trans read)

end Answers

/-- Whoever judges settings has no complaint about the form in which they were given. -/
theorem Judged.ne_parse {settings : Settings} {answer : Except ConfigError Settings}
    (judged : Judged settings answer) : answer ≠ .error .parse := by
  rcases Nat.eq_zero_or_pos settings.queueCapacity with zero | room
  · rw [judged.capacity zero]
    exact nofun
  · rcases Nat.eq_zero_or_pos settings.shutdownAwait with zero | waits
    · rw [judged.wait room zero]
      exact nofun
    · by_cases blank : ∀ c ∈ settings.filter.toList, Text.isBlank c = true
      · rw [judged.filter room waits blank]
        exact nofun
      · rw [judged.accepted.mpr ⟨room, waits, by simpa using blank⟩]
        exact nofun

/-- What a document overrides depends on what it gives. -/
theorem Overlay.congr {entries others : List (Node × Node)} {settings : Settings}
    (overlay : Overlay entries settings)
    (same : ∀ sectionName fieldName node,
      GivenAt entries sectionName fieldName node ↔ GivenAt others sectionName fieldName node) :
    Overlay others settings := by
  rcases overlay with ⟨wait, capacity, filter⟩
  simp only [Field, same] at wait capacity filter
  exact ⟨wait, capacity, filter⟩

/-- A configuration overrides the defaults, strictly.  Let the content be a single document
that is empty or a mapping.  If a key is unknown or repeated, a section is neither a mapping
nor empty, or a value is not an integer of 64 bits or not a scalar where it has to be, then
the content is refused as unreadable, whatever else could be said against its values.
Otherwise it determines settings, each of them as given or at its default, and the answer
accepts them or names the first at fault.  Contents that give the same are answered alike, in
whatever order they give it, and whether or not the rest is left empty or left out. -/
theorem strict_overlay {content : ByteArray} {entries : List (Node × Node)}
    (reads : Reads content entries) :
    (ofFile (some content) = .error .parse ↔ ¬ Strict entries) ∧
      (Strict entries → ∃ settings, Overlay entries settings ∧
        (∀ other, Overlay entries other → other = settings) ∧
        Judged settings (ofFile (some content))) ∧
      ∀ otherContent others, Reads otherContent others → Strict entries → Strict others →
        (∀ sectionName fieldName node,
          GivenAt entries sectionName fieldName node ↔ GivenAt others sectionName fieldName node) →
        ofFile (some otherContent) = ofFile (some content) := by
  refine ⟨⟨?_, ofFile_of_not_strict reads⟩, ?_, ?_⟩
  · intro refused strict
    rcases strict.exists_overlay with ⟨settings, overlay⟩
    rw [ofFile_of_overlay reads strict overlay] at refused
    exact (checked_judged settings).ne_parse refused
  · intro strict
    rcases strict.exists_overlay with ⟨settings, overlay⟩
    refine ⟨settings, overlay, fun _ => strict.overlay_unique reads overlay, ?_⟩
    rw [ofFile_of_overlay reads strict overlay]
    exact checked_judged settings
  · intro otherContent others readsOther strict strictOther same
    rcases strict.exists_overlay with ⟨settings, overlay⟩
    rw [ofFile_of_overlay reads strict overlay,
      ofFile_of_overlay readsOther strictOther (overlay.congr same)]

/-! ## Three documents -/

theorem fromUTF8?_toUTF8 (text : String) : String.fromUTF8? text.toUTF8 = some text :=
  dif_pos text.isValidUTF8

/-- A text with one document, read as a content. -/
theorem reads_of_documents {text : String} {root : Node} {entries : List (Node × Node)}
    (parsed : Yaml.documents? text.toList = some [root]) (holds : Holds root entries) :
    Reads text.toUTF8 entries :=
  ⟨text, [root], fromUTF8?_toUTF8 text, parsed, Or.inr ⟨root, rfl, holds⟩⟩

theorem ofFile_toUTF8 (text : String) : ofFile (some text.toUTF8) = ofText text := by
  rw [ofFile, fromUTF8?_toUTF8]

/-- What is given does not depend on the order of the sections. -/
theorem givenAt_of_perm {entries others : List (Node × Node)} (order : entries.Perm others)
    (sectionName fieldName : String) (node : Node) :
    GivenAt entries sectionName fieldName node ↔ GivenAt others sectionName fieldName node := by
  simp only [GivenAt, Given, order.mem_iff]

/-- A key of a document. -/
def key (name : String) : Node := .scalar name .plain none

/-- A section for the log filter. -/
def filterSection : Node × Node :=
  (key "logging", .mapping [(key "filter", .scalar "warn" .doubleQuoted none)])

/-- A section for the queue, whose capacity is written in hexadecimal digits. -/
def capacitySection : Node × Node :=
  (key "failure_handling", .mapping [(key "queue_capacity", .scalar "+0x1F" .plain none)])

/-- Both sections, and then the same in the other order. -/
def bothSections : String :=
  "logging:\n  filter: \"warn\"\nfailure_handling:\n  queue_capacity: +0x1F\n"

def swappedSections : String :=
  "failure_handling: \x7bqueue_capacity: +0x1F\x7d\nlogging: \x7bfilter: \"warn\"\x7d\n"

/-- The wait is left at its default, and the order of the sections does not matter. -/
theorem strict_overlay_swapped :
    Reads bothSections.toUTF8 [filterSection, capacitySection] ∧
      Reads swappedSections.toUTF8 [capacitySection, filterSection] ∧
      Strict [filterSection, capacitySection] ∧ Strict [capacitySection, filterSection] ∧
      (∃ settings, Overlay [filterSection, capacitySection] settings ∧
        Judged settings (ofFile (some bothSections.toUTF8))) ∧
      ofFile (some bothSections.toUTF8) = .ok { queueCapacity := 31, filter := "warn" } ∧
      ofFile (some swappedSections.toUTF8) = ofFile (some bothSections.toUTF8) := by
  have reads : Reads bothSections.toUTF8 [filterSection, capacitySection] :=
    reads_of_documents (by cbv) (.mapping _)
  have readsSwapped : Reads swappedSections.toUTF8 [capacitySection, filterSection] :=
    reads_of_documents (by cbv) (.mapping _)
  have answer : ofText bothSections = .ok { queueCapacity := 31, filter := "warn" } := by
    decide +kernel
  have answerSwapped : ofText swappedSections = .ok { queueCapacity := 31, filter := "warn" } := by
    decide +kernel
  rw [← ofFile_toUTF8] at answer answerSwapped
  have strict := strict_of_accepted reads answer
  have strictSwapped := strict_of_accepted readsSwapped answerSwapped
  rcases strict_overlay reads with ⟨_, overlays, alike⟩
  rcases overlays strict with ⟨settings, overlay, _, judged⟩
  exact ⟨reads, readsSwapped, strict, strictSwapped, ⟨settings, overlay, judged⟩, answer,
    alike _ _ readsSwapped strict strictSwapped (givenAt_of_perm (.swap _ _ _))⟩

/-- An integer that is no plain scalar. -/
def taggedBlock : String := "failure_handling:\n  queue_capacity: !!int |-\n    5\n"

/-- A literal block that is tagged as an integer is read as one. -/
theorem taggedBlock_accepted :
    ∃ entries, Reads taggedBlock.toUTF8 entries ∧
      (∃ node, GivenAt entries "failure_handling" "queue_capacity" node ∧
        ∀ text tag, node ≠ .scalar text .plain tag) ∧
      ofFile (some taggedBlock.toUTF8) = .ok { queueCapacity := 5 } := by
  have parsed : Yaml.documents? taggedBlock.toList = some [.mapping [(key "failure_handling",
      .mapping [(key "queue_capacity", .scalar "5" .literal (some integerTag))])]] := by cbv
  refine ⟨_, reads_of_documents parsed (.mapping _), ⟨.scalar "5" .literal (some integerTag), ?_,
    ?_⟩, ?_⟩
  · exact ⟨_, _, ⟨_, List.mem_cons_self, ⟨_, _, rfl⟩, rfl⟩, .mapping _, _, List.mem_cons_self,
      ⟨_, _, rfl⟩, rfl⟩
  · intro text tag same
    cases same
  · rw [ofFile_toUTF8]
    decide +kernel

end Config
end FailureDispatch
