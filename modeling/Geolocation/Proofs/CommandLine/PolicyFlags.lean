import Geolocation.CommandLine.Arguments
import Geolocation.Proofs.Search.MalformedPolicy
import Geolocation.Proofs.Store.LastRecord

/-!
# Policy flags in words

The text of a policy flag is a name and a truth value with an equals sign between them. Of several flags
with one name the last counts, and a provider that has the flag is closed exactly if that one says no.

From a text to a gate there are three steps: the text is read as a name and a truth value, the flags
become one object, and the gate looks up its flag there. The flags always become an object, or nothing at
all, so that no gate can find them malformed.

Main result: `CommandLine.flags_decide_gates`.
-/

namespace Geolocation

open Text
open Store (last? last?_cons)

/-! ### Objects of fields -/

namespace Json

theorem field?_cons (name : String) (field : String × Json) (rest : List (String × Json)) :
    field? name (field :: rest) = if field.1 = name then some field.2 else field? name rest := by
  by_cases here : field.1 = name <;> simp [field?, here]

theorem field?_setField (name other : String) (value : Json) (fields : List (String × Json)) :
    field? name (setField other value fields)
      = if other = name then some value else field? name fields := by
  induction fields with
  | nil => exact field?_cons name (other, value) []
  | cons field rest ih =>
    obtain ⟨first, kept⟩ := field
    rw [setField]
    split
    next same =>
      rw [field?_cons, field?_cons, same]
      split <;> rfl
    next differ =>
      split
      next before => rw [field?_cons]
      next behind =>
        rw [field?_cons, field?_cons, ih]
        -- The first field is passed over either for its name or by both sides.
        by_cases here : first = name
        · rw [if_pos here, if_neg (here ▸ differ), if_pos here]
        · rw [if_neg here, if_neg here]

/-- In an object the last of several fields with one name is found. -/
theorem field?_ofFields (fields : List (String × Json)) : ∃ ordered, ofFields fields = .object ordered ∧
    ∀ name, field? name ordered = last? Eq fields name := by
  -- The object that is built upon is read where the fields say nothing.
  have from_object (ordered : List (String × Json)) (name : String) :
      field? name (fields.foldl (fun ordered field => setField field.1 field.2 ordered) ordered)
        = (last? Eq fields name).or (field? name ordered) := by
    induction fields generalizing ordered with
    | nil => rfl
    | cons field rest ih =>
      rw [List.foldl_cons, ih, field?_setField, last?_cons, Option.or_assoc]
      by_cases named : field.1 = name <;> simp [named]
  refine ⟨_, rfl, fun name => ?_⟩
  rw [from_object]
  simp [field?]

end Json

namespace CommandLine

/-! ### Texts of flags -/

/-- The text sets the flag of this name to this word: they stand before and behind its first equals sign,
without the white space around them, and the word in lower case. -/
def Sets (text name word : String) : Prop :=
  ∃ before after, text.toList = before ++ '=' :: after ∧ '=' ∉ before ∧
    trim (String.ofList before) = name ∧ lowercase (trim (String.ofList after)) = word

/-- The words for a truth value. -/
def wordsFor : Bool → List String
  | true => ["true", "1", "yes"]
  | false => ["false", "0", "no"]

/-- The last of the texts that sets the flag sets it to one of the words. -/
def LastSets (texts : List String) (name : String) (words : List String) : Prop :=
  ∃ earlier text later, texts = earlier ++ text :: later ∧ (∃ word ∈ words, Sets text name word) ∧
    ∀ other ∈ later, ∀ word, ¬Sets other name word

theorem Sets.unique {text name other word otherWord : String} (sets : Sets text name word)
    (again : Sets text other otherWord) : name = other ∧ word = otherWord := by
  obtain ⟨before, after, split, absent, rfl, rfl⟩ := sets
  obtain ⟨before', after', split', absent', rfl, rfl⟩ := again
  have once := splitOnce_eq_some_iff.mpr ⟨absent, split⟩
  rw [splitOnce_eq_some_iff.mpr ⟨absent', split'⟩] at once
  cases once
  exact ⟨rfl, rfl⟩

theorem truthOf?_eq_some_iff {word : String} {value : Bool} :
    truthOf? word = some value ↔ word ∈ wordsFor value := by
  have apart : ∀ yes ∈ wordsFor true, yes ∉ wordsFor false := by decide
  change (if word ∈ wordsFor true then some true
    else if word ∈ wordsFor false then some false else none) = some value ↔ _
  by_cases yes : word ∈ wordsFor true
  · rw [if_pos yes]
    cases value with
    | true => exact iff_of_true rfl yes
    | false => exact iff_of_false nofun (apart word yes)
  · rw [if_neg yes]
    cases value with
    | true => simp [yes]
    | false => simp

theorem readFlag_eq_ok_iff (text : String) (flag : String × Bool) :
    readFlag text = .ok flag ↔ ∃ word ∈ wordsFor flag.2, Sets text flag.1 word := by
  simp only [← truthOf?_eq_some_iff]
  unfold readFlag
  constructor
  · intro read
    split at read
    · cases read
    next before after once =>
      dsimp only at read
      split at read
      next value truth =>
        cases read
        obtain ⟨absent, split⟩ := splitOnce_eq_some_iff.mp once
        refine ⟨_, truth, before, after, split, absent, ?_, ?_⟩ <;> simp [trim]
      · cases read
  · rintro ⟨word, truth, before, after, split, absent, name, rfl⟩
    rw [splitOnce_eq_some_iff.mpr ⟨absent, split⟩]
    simp only [trim, String.toList_ofList] at truth name
    simp only [truth, name]

theorem exists_readFlag_iff (text : String) : (∃ flag, readFlag text = .ok flag) ↔
    ∃ name word, Sets text name word ∧ word ∈ ["true", "1", "yes", "false", "0", "no"] := by
  constructor
  · rintro ⟨flag, read⟩
    obtain ⟨word, known, sets⟩ := (readFlag_eq_ok_iff text flag).mp read
    have all : ∀ value, ∀ word ∈ wordsFor value, word ∈ ["true", "1", "yes", "false", "0", "no"] := by
      decide
    exact ⟨flag.1, word, sets, all flag.2 word known⟩
  · rintro ⟨name, word, sets, known⟩
    have some : ∀ word ∈ ["true", "1", "yes", "false", "0", "no"], ∃ value, word ∈ wordsFor value := by
      decide
    obtain ⟨value, member⟩ := some word known
    exact ⟨(name, value), (readFlag_eq_ok_iff text (name, value)).mpr ⟨word, member, sets⟩⟩

theorem lastSets_cons_iff {text name : String} {texts words : List String} :
    LastSets (text :: texts) name words ↔ LastSets texts name words ∨
      (∃ word ∈ words, Sets text name word) ∧ ∀ other ∈ texts, ∀ word, ¬Sets other name word := by
  constructor
  · rintro ⟨earlier, last, later, split, said, unset⟩
    cases earlier with
    | nil =>
      cases split
      exact Or.inr ⟨said, unset⟩
    | cons first earlier =>
      cases split
      exact Or.inl ⟨earlier, last, later, rfl, said, unset⟩
  · rintro (⟨earlier, last, later, rfl, said, unset⟩ | ⟨said, unset⟩)
    · exact ⟨text :: earlier, last, later, rfl, said, unset⟩
    · exact ⟨[], text, texts, rfl, said, unset⟩

/-- The flags are what the texts are read as. -/
def ReadAs (texts : List String) (flags : List (String × Bool)) : Prop :=
  List.Forall₂ (fun text flag => readFlag text = .ok flag) texts flags

theorem sets_iff_of_readFlag {text name : String} {flag : String × Bool}
    (read : readFlag text = .ok flag) : (∃ word, Sets text name word) ↔ flag.1 = name := by
  obtain ⟨word, -, sets⟩ := (readFlag_eq_ok_iff text flag).mp read
  constructor
  · rintro ⟨other, again⟩
    exact (sets.unique again).1
  · rintro rfl
    exact ⟨word, sets⟩

theorem last?_eq_none_iff_of_readAs {texts : List String} {flags : List (String × Bool)}
    (read : ReadAs texts flags) (name : String) :
    last? Eq flags name = none ↔ ∀ text ∈ texts, ∀ word, ¬Sets text name word := by
  induction read with
  | nil => simp [last?]
  | cons first _ ih =>
    rw [last?_cons, Option.or_eq_none_iff, ih, List.forall_mem_cons, and_comm]
    refine and_congr_left fun _ => ?_
    rw [← not_exists, sets_iff_of_readFlag first]
    simp

/-- What the last flag of a name is, by the texts. -/
theorem last?_eq_some_iff_of_readAs {texts : List String} {flags : List (String × Bool)}
    (read : ReadAs texts flags) (name : String) (value : Bool) :
    last? Eq flags name = some value ↔ LastSets texts name (wordsFor value) := by
  induction read with
  | nil => simp [last?, LastSets]
  | @cons text flag texts flags first rest ih =>
    -- Either the later texts have said it, or they say nothing and the first one does.
    rw [last?_cons, lastSets_cons_iff, Option.or_eq_some_iff, ih,
      last?_eq_none_iff_of_readAs rest name]
    refine or_congr_right (and_comm.trans (and_congr_left fun _ => ?_))
    rw [← readFlag_eq_ok_iff text (name, value), first]
    simp [Prod.ext_iff]

/-! ### Words -/

/-- The word that gives the text of a flag to the program. -/
def flagWord (text : String) : String := "--fallback=" ++ text

theorem word_flagWord (arguments : Arguments) (text : String) :
    Progress.word ⟨arguments, none⟩ (flagWord text) =
      match readFlag text with
      | .ok flag => .ok ⟨{ arguments with flags := arguments.flags ++ [flag] }, none⟩
      | .error error => .error (.refused (.flag error)) := by
  have letters : (flagWord text).toList = '-' :: '-' :: ("fallback".toList ++ '=' :: text.toList) := by
    simp [flagWord]
  have once : splitOnce '=' ("fallback".toList ++ '=' :: text.toList)
      = some ("fallback".toList, text.toList) :=
    splitOnce_eq_some_iff.mpr ⟨by decide, rfl⟩
  have known : Named.ofLong? "fallback" = some (.value .flag) := rfl
  rw [Progress.word, letters]
  simp only [Progress.long, once, String.ofList_toList, known, Progress.named, Progress.settle]
  -- Nothing is pending, so that the value is taken in at once.
  change ((arguments.give .flag text).mapError Stop.refused >>= fun given => pure (Progress.mk given none)) = _
  rw [Arguments.give]
  cases readFlag text <;> rfl

/-- The words are understood exactly if all the texts are, and their flags are taken in order. -/
theorem read_flagWords (texts : List String) (arguments : Arguments) :
    Arguments.read (texts.map flagWord) = .ok arguments ↔
      ∃ flags, ReadAs texts flags ∧ arguments = { flags := flags } := by
  have goesOn (start : Arguments) :
      Progress.words ⟨start, none⟩ (texts.map flagWord) = .ok arguments ↔
        ∃ flags, ReadAs texts flags ∧ arguments = { start with flags := start.flags ++ flags } := by
    induction texts generalizing start with
    | nil =>
      simp [Progress.words, Progress.settle, ReadAs, eq_comm]
    | cons text rest ih =>
      have noEnd : flagWord text ≠ "--" := by
        intro same
        have letters := congrArg String.toList same
        simp [flagWord] at letters
      rw [List.map_cons, Progress.words, if_neg noEnd, word_flagWord]
      cases read : readFlag text with
      | error error =>
        refine iff_of_false nofun ?_
        rintro ⟨flags, readAs, -⟩
        cases readAs with
        | cons first others => cases read.symm.trans first
      | ok flag =>
        refine (ih _).trans ?_
        constructor
        · rintro ⟨flags, others, rfl⟩
          exact ⟨flag :: flags, .cons read others, by simp⟩
        · rintro ⟨flags, readAs, rfl⟩
          cases readAs with
          | cons first others =>
            cases read.symm.trans first
            exact ⟨_, others, by simp⟩
  simpa [Arguments.read] using goesOn {}

/-! ### Gates -/

theorem policyOf_cons (first : String × Bool) (rest : List (String × Bool)) :
    policyOf (first :: rest)
      = some (Json.ofFields ((first :: rest).map fun flag => (flag.1, .bool flag.2))) :=
  rfl

/-- The query of the arguments finds the last flag of each name, and no name is malformed. -/
theorem flag_ofRequest_request (arguments : Arguments) (name : String) :
    (Query.ofRequest arguments.request).flag name
      = .ok ((last? Eq arguments.flags name).map Json.bool) := by
  have policy : (Query.ofRequest arguments.request).policy = policyOf arguments.flags := rfl
  rw [Query.flag, policy]
  cases arguments.flags with
  | nil => rfl
  | cons first rest =>
    obtain ⟨ordered, object, found⟩ :=
      Json.field?_ofFields ((first :: rest).map fun flag => (flag.1, .bool flag.2))
    rw [policyOf_cons, object]
    simp only [found, Store.last?_map]

theorem isOpen_policyGate_request (arguments : Arguments) {profile : Profile} {name : String}
    (flagged : profile.flag = some name) :
    (profile.policyGate (.ofRequest arguments.request)).isOpen = false ↔
      last? Eq arguments.flags name = some false := by
  rw [Profile.policyGate, flagged]
  simp only [flag_ofRequest_request]
  cases last? Eq arguments.flags name with
  | none => simp
  | some value => cases value <;> simp

theorem fault_policyGate_request (arguments : Arguments) (profile : Profile) :
    (profile.policyGate (.ofRequest arguments.request)).fault = none := by
  cases flagged : profile.flag with
  | none => rw [Profile.policyGate, flagged]
  | some name =>
    rw [Profile.policyGate, flagged]
    simp only [flag_ofRequest_request]
    cases last? Eq arguments.flags name with
    | none => rfl
    | some value => cases value <;> rfl

/-- No provider that a search for the arguments visits reports their policy flags. -/
theorem gateFault_of_mem_visits {arguments : Arguments} {locator : Locator} {caller : Caller}
    {wanted : Yield} {visit : Visit}
    (member : visit ∈ Search.visits locator.settings.search (locator.chain caller wanted)
      (.ofRequest arguments.request)) : visit.gateFault = none := by
  obtain ⟨provider, inChain, best, rfl⟩ := Search.provider_of_visit member
  -- A gate that does not go by the flag is closed without looking at it.
  have gate : (provider.gate (.ofRequest arguments.request) best).fault = none := by
    rcases (Locator.heedsFlagOnly_of_mem_chain inChain).gate best with policyGate | ⟨-, closed⟩
    · rw [policyGate]
      exact fault_policyGate_request arguments provider.profile
    · rw [closed]
  rw [Provider.visit]
  split <;> exact gate

/-- A text is read as a flag exactly if it sets one to a word that is known. The texts of a command line
are taken in order, and they close a provider exactly if the last of them that sets its flag says no.
Whatever the arguments, no gate and no search finds their flags malformed. -/
theorem flags_decide_gates (texts : List String) :
    (∀ text, (∃ flag, readFlag text = .ok flag) ↔
      ∃ name word, Sets text name word ∧ word ∈ ["true", "1", "yes", "false", "0", "no"]) ∧
    (∀ arguments, Arguments.read (texts.map flagWord) = .ok arguments ↔
      ∃ flags, ReadAs texts flags ∧ arguments = { flags := flags }) ∧
    (∀ arguments : Arguments, ReadAs texts arguments.flags →
      ∀ (profile : Profile) (name : String), profile.flag = some name →
        ((profile.policyGate (.ofRequest arguments.request)).isOpen = false ↔
          LastSets texts name ["false", "0", "no"])) ∧
    ∀ arguments : Arguments,
      (∀ profile : Profile, (profile.policyGate (.ofRequest arguments.request)).fault = none) ∧
      ∀ (locator : Locator) (caller : Caller) (wanted : Yield),
        ∀ visit ∈ Search.visits locator.settings.search (locator.chain caller wanted)
          (.ofRequest arguments.request), visit.gateFault = none := by
  refine ⟨exists_readFlag_iff, read_flagWords texts, ?_, ?_⟩
  · intro arguments read profile name flagged
    rw [isOpen_policyGate_request arguments flagged]
    exact last?_eq_some_iff_of_readAs read name false
  · intro arguments
    exact ⟨fault_policyGate_request arguments, fun _ _ _ _ member => gateFault_of_mem_visits member⟩

/-- Of three flags that close look-ups of addresses or open them, the last closes them; a flag whose name
has another case is another flag. -/
theorem gates_of_repeated_flags :
    let texts := [" ipf = No", "ipf=TRUE", "LACF=false", "ipf= 0 "]
    let arguments : Arguments :=
      { flags := [("ipf", false), ("ipf", true), ("LACF", false), ("ipf", false)] }
    ReadAs texts arguments.flags ∧
      ((Provider.addressProfile .position).policyGate (.ofRequest arguments.request)).isOpen = false ∧
      (Provider.areaProfile.policyGate (.ofRequest arguments.request)).isOpen = true := by
  intro texts arguments
  obtain ⟨-, -, gates, -⟩ := flags_decide_gates texts
  have readAs : ReadAs texts arguments.flags :=
    .cons rfl (.cons rfl (.cons rfl (.cons rfl .nil)))
  refine ⟨readAs, ?_, ?_⟩
  · rw [gates arguments readAs _ "ipf" rfl]
    exact (last?_eq_some_iff_of_readAs readAs "ipf" false).mp (by decide)
  · rw [← Bool.not_eq_false, gates arguments readAs _ "lacf" rfl]
    exact (last?_eq_some_iff_of_readAs readAs "lacf" false).not.mp (by decide)

end CommandLine

end Geolocation
