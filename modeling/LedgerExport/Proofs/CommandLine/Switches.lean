import LedgerExport.CommandLine.Arguments
import LedgerExport.Proofs.Except
import Mathlib.Data.List.TakeWhile

/-!
# Switches of the command line

A switch is an option without a value and without a letter. It is on exactly if
its word stands among the words of the command line: no other word turns it on,
and its word cannot be taken for a value, a command or part of another option. So
the two switches that name a network can be read off the words of any command line
that is understood.

## Implementation notes

What one word does to a switch is a relation, which all kinds of words satisfy;
the words of a place follow by induction. The words that a place leaves for a
command are told apart from those that it takes.
-/

namespace LedgerExport.CommandLine

/-! ## Options by name -/

namespace Topic

/-- The word that gives an option by its name. -/
def word (topic : Topic) : String :=
  "--" ++ topic.long

theorem long_injective : Function.Injective long := by
  intro topic topic' h
  revert h
  cases topic <;> cases topic' <;> decide

theorem toList_word (topic : Topic) : topic.word.toList = '-' :: '-' :: topic.long.toList := by
  simp [word]

theorem equals_notMem_long (topic : Topic) : '=' ∉ topic.long.toList := by
  cases topic <;> decide

theorem isValue_word (topic : Topic) : isValue topic.word = false := by
  cases topic <;> decide

theorem word_ne_hyphens (topic : Topic) : topic.word ≠ "--" := by
  cases topic <;> decide

end Topic

/-- An option that is given by its word alone. -/
structure Topic.IsSwitch (topic : Topic) : Prop where
  takesValue : topic.takesValue = false
  letter : topic.letter? = none

/-! ## Options that were given -/

namespace Given

variable {given given' : Given} {topic : Topic}

theorem has_iff : given.has topic = true ↔ ∃ value, (topic, value) ∈ given := by
  simp [has, value?]

@[simp] theorem has_nil : Given.has [] topic = false := rfl

theorem has_cons {other : Topic} {value : String} :
    Given.has ((other, value) :: given) topic = true ↔ other = topic ∨ given.has topic = true := by
  rw [has_iff, has_iff]
  constructor
  · rintro ⟨value', hmem⟩
    rcases List.mem_cons.mp hmem with h | h
    · exact .inl (Prod.mk.inj h).1.symm
    · exact .inr ⟨value', h⟩
  · rintro (rfl | ⟨value', hmem⟩)
    · exact ⟨value, List.mem_cons_self⟩
    · exact ⟨value', List.mem_cons_of_mem _ hmem⟩

theorem has_append :
    Given.has (given ++ given') topic = true ↔
      given.has topic = true ∨ given'.has topic = true := by
  simp only [has_iff, List.mem_append, exists_or]

theorem has_of_add {other : Topic} {value : String} (h : given.add other value = .ok given') :
    given'.has topic = true ↔ other = topic ∨ given.has topic = true := by
  unfold add at h
  split at h
  · cases h
  · split at h
    · cases h
    · cases h
      exact has_cons

end Given

/-! ## One word -/

/-- The options that were given when a word has been read. -/
def Asked.given : Asked → Given
  | .done given => given
  | .value given _ => given

/-- What a word does to a switch: it is on afterwards if it was on before or the word turns it on,
and a value that is asked for is not its own. -/
structure Asked.Turns (asked : Asked) (switch : Topic) (given : Given) (on : Prop) : Prop where
  has_iff : asked.given.has switch = true ↔ given.has switch = true ∨ on
  ne_of_value : ∀ given' topic, asked = .value given' topic → topic ≠ switch

section Word

variable {place : Place} {switch topic : Topic} {given given' : Given} {asked : Asked}

theorem Asked.Turns.congr {on on' : Prop} (h : asked.Turns switch given on) (hon : on ↔ on') :
    asked.Turns switch given on' :=
  ⟨h.has_iff.trans (or_congr_right hon), h.ne_of_value⟩

theorem turns_done_add {value : String} (h : given.add topic value = .ok given') :
    (Asked.done given').Turns switch given (topic = switch) :=
  ⟨(Given.has_of_add h).trans or_comm, nofun⟩

theorem turns_value (hne : topic ≠ switch) :
    (Asked.value given topic).Turns switch given False := by
  refine ⟨(or_iff_left not_false).symm, ?_⟩
  rintro _ _ ⟨⟩
  exact hne

theorem turns_readLong {name : String} {attached : Option String} (hswitch : switch.IsSwitch)
    (h : readLong place given name attached = .ok asked) :
    asked.Turns switch given (name = switch.long ∧ attached = none) := by
  unfold readLong at h
  split at h
  · next topic hfound =>
      have hlong : topic.long = name := by simpa using List.find?_some hfound
      have hname : name = switch.long ↔ topic = switch := by
        rw [← hlong, Topic.long_injective.eq_iff]
      -- An option with a value is no switch.
      have hne : topic.takesValue = true → topic ≠ switch := by
        rintro hvalue rfl
        rw [hswitch.takesValue] at hvalue
        cases hvalue
      split at h
      · next hvalue =>
          obtain ⟨given', hadd, rfl⟩ := map_eq_ok_iff.mp h
          refine (turns_done_add hadd).congr (iff_of_false (hne hvalue) ?_)
          exact fun hon => hne hvalue (hname.mp hon.1)
      · next hvalue =>
          cases h
          refine (turns_value (hne hvalue)).congr (iff_of_false id ?_)
          exact fun hon => hne hvalue (hname.mp hon.1)
      · obtain ⟨given', hadd, rfl⟩ := map_eq_ok_iff.mp h
        refine (turns_done_add hadd).congr ?_
        rw [hname]
        exact (and_iff_left rfl).symm
      · cases h
  · repeat' split at h
    all_goals cases h

theorem turns_readLetters {letters : List Char} (hswitch : switch.IsSwitch)
    (h : readLetters place given letters = .ok asked) : asked.Turns switch given False := by
  induction letters generalizing given with
  | nil =>
      cases h
      exact ⟨(or_iff_left not_false).symm, nofun⟩
  | cons c more ih =>
      unfold readLetters at h
      split at h
      · next topic hfound =>
          have hletter : topic.letter? = some c := by simpa using List.find?_some hfound
          have hne : topic ≠ switch := by
            rintro rfl
            rw [hswitch.letter] at hletter
            cases hletter
          split at h
          · split at h
            · cases h
              exact turns_value hne
            · obtain ⟨given', hadd, rfl⟩ := map_eq_ok_iff.mp h
              exact (turns_done_add hadd).congr (iff_of_false hne id)
          · obtain ⟨given', hadd, hmore⟩ := bind_eq_ok_iff.mp h
            obtain ⟨hiff, hvalue⟩ := ih hmore
            refine ⟨hiff.trans ?_, hvalue⟩
            rw [Given.has_of_add hadd, or_iff_right hne]
      · repeat' split at h
        all_goals cases h

/-- A word turns a switch on exactly if it is the word of the switch. -/
theorem turns_readWord {word : String} (hswitch : switch.IsSwitch)
    (h : readWord place given word.toList = .ok asked) :
    asked.Turns switch given (word = switch.word) := by
  rw [← String.toList_inj, Topic.toList_word]
  generalize word.toList = text at h ⊢
  have hlong : switch.long.toList.dropWhile (· ≠ '=') = [] := by
    rw [List.dropWhile_eq_nil_iff]
    intro c hc
    exact decide_eq_true fun hmark => switch.equals_notMem_long (hmark ▸ hc)
  unfold readWord at h
  split at h
  · next name =>
      split at h
      · next hrest =>
          have hname : name.takeWhile (· ≠ '=') = name := by
            have hcut := List.takeWhile_append_dropWhile (p := (· ≠ '=')) (l := name)
            rwa [hrest, List.append_nil] at hcut
          refine (turns_readLong hswitch h).congr ?_
          rw [hname, and_iff_left rfl, ← String.toList_inj, String.toList_ofList]
          simp
      · next hrest =>
          refine (turns_readLong hswitch h).congr (iff_of_false nofun ?_)
          rintro ⟨⟩
          rw [hlong] at hrest
          cases hrest
  · next c letters hhyphen =>
      refine (turns_readLetters hswitch h).congr (iff_of_false id fun hword => ?_)
      exact hhyphen (List.cons.inj (List.cons.inj hword).2).1
  · cases h

end Word

/-! ## Words of a place -/

/-- The words that are left where a command was found. -/
def remaining : Option (String × List String) → List String
  | none => []
  | some (command, more) => command :: more

section Words

variable {place : Place} {switch : Topic} {given given' : Given} {words : List String}
  {rest : Option (String × List String)}

/-- A place turns a switch on exactly if its word is among the words that the place takes. -/
theorem has_readWords (hswitch : switch.IsSwitch)
    (h : readWords place given words = .ok (given', rest)) :
    ∃ taken, words = taken ++ remaining rest ∧
      (given'.has switch = true ↔ given.has switch = true ∨ switch.word ∈ taken) := by
  fun_induction readWords place given words with
  | case1 given =>
      cases h
      exact ⟨[], rfl, (or_iff_left List.not_mem_nil).symm⟩
  | case2 given more hmore =>
      cases h
      rw [List.isEmpty_iff] at hmore
      refine ⟨["--"], by rw [hmore]; rfl, (or_iff_left ?_).symm⟩
      rw [List.mem_singleton]
      exact switch.word_ne_hyphens
  | case4 given command more _ _ =>
      cases h
      exact ⟨[], rfl, (or_iff_left List.not_mem_nil).symm⟩
  | case6 given word more _ _ given₁ hword ih =>
      obtain ⟨taken, hmore, hhas⟩ := ih h
      obtain ⟨hturns, -⟩ := turns_readWord hswitch hword
      refine ⟨word :: taken, congrArg (word :: ·) hmore, hhas.trans ?_⟩
      rw [List.mem_cons, ← or_assoc, eq_comm (a := switch.word)]
      exact or_congr_left hturns
  | case9 given word _ _ given₁ topic hword value after hvalue given₂ hadd ih =>
      obtain ⟨taken, hafter, hhas⟩ := ih h
      obtain ⟨hturns, hne⟩ := turns_readWord hswitch hword
      -- The word of the switch is no value, so here it is not taken for one.
      have hother : switch.word ≠ value := by
        rintro rfl
        rw [switch.isValue_word] at hvalue
        cases hvalue
      refine ⟨word :: value :: taken, congrArg (word :: value :: ·) hafter, hhas.trans ?_⟩
      rw [Given.has_of_add hadd, or_iff_right (hne _ _ rfl), List.mem_cons, List.mem_cons,
        or_iff_right hother, ← or_assoc, eq_comm (a := switch.word)]
      exact or_congr_left hturns
  | case3 | case5 | case7 | case8 | case10 => cases h

/-- Only the words in front end at a command, which is no option. -/
theorem isValue_of_readWords {command : String} {more : List String}
    (h : readWords place given words = .ok (given', some (command, more))) :
    place = .front ∧ isValue command = true := by
  fun_induction readWords place given words with
  | case4 given command more _ hcommand =>
      cases h
      exact hcommand
  | case6 given word more _ _ given₁ hword ih => exact ih h
  | case9 given word _ _ given₁ topic hword value after hvalue given₂ hadd ih => exact ih h
  | case1 | case2 | case3 | case5 | case7 | case8 | case10 => cases h

end Words

theorem Place.ne_front_of_command {place : Place} {command : String}
    (h : Place.ofCommand? command = some place) : place ≠ .front := by
  rintro rfl
  unfold Place.ofCommand? at h
  split at h
  all_goals cases h

/-! ## Command lines -/

section Parse

variable {words : List String} {invocation : Invocation}

/-- A command line that is understood has its switches from all of its words, those in front of
the command and those behind it. -/
theorem Invocation.exists_given_of_parse (h : Invocation.parse words = .ok invocation) :
    ∃ given : Given, invocation.testnet = given.has .testnet ∧
      invocation.mainnet = given.has .mainnet ∧
      ∀ switch : Topic, switch.IsSwitch → (given.has switch = true ↔ switch.word ∈ words) := by
  obtain ⟨⟨front, behind⟩, hfront, h⟩ := bind_eq_ok_iff.mp h
  cases behind with
  | none => cases h
  | some found =>
      obtain ⟨command, more⟩ := found
      dsimp only at h
      split at h
      · cases h
      · next place hplace =>
          obtain ⟨⟨given, rest⟩, hbehind, h⟩ := bind_eq_ok_iff.mp h
          obtain ⟨todo, -, h⟩ := bind_eq_ok_iff.mp h
          cases h
          refine ⟨given ++ front, rfl, rfl, fun switch hswitch => ?_⟩
          obtain ⟨taken, hwords, hhas⟩ := has_readWords hswitch hfront
          obtain ⟨takenBehind, hmore, hhasBehind⟩ := has_readWords hswitch hbehind
          have hrest : rest = none := by
            cases rest with
            | none => rfl
            | some found =>
                exact absurd (isValue_of_readWords hbehind).1 (Place.ne_front_of_command hplace)
          have hcommand : switch.word ≠ command := by
            rintro rfl
            have hvalue := (isValue_of_readWords hfront).2
            rw [switch.isValue_word] at hvalue
            cases hvalue
          rw [hrest, remaining, List.append_nil] at hmore
          rw [Given.has_append, hhas, hhasBehind, hwords, hmore, remaining, List.mem_append,
            List.mem_cons, or_iff_right hcommand]
          simp only [Given.has_nil, Bool.false_eq_true, false_or]
          exact or_comm

/-- The flags of the two networks are on exactly if their words stand on the command line. -/
theorem Invocation.networks_of_parse (h : Invocation.parse words = .ok invocation) :
    (invocation.testnet = true ↔ "--testnet" ∈ words) ∧
      (invocation.mainnet = true ↔ "--mainnet" ∈ words) := by
  obtain ⟨given, htestnet, hmainnet, hhas⟩ := exists_given_of_parse h
  rw [htestnet, hmainnet]
  exact ⟨hhas .testnet ⟨rfl, rfl⟩, hhas .mainnet ⟨rfl, rfl⟩⟩

end Parse

end LedgerExport.CommandLine
