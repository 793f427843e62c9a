import ProxyControl.CommandLine.Command
import ProxyControl.Proofs.Outcome

namespace ProxyControl.CommandLine

variable {flags : List Flag} {given : Given} {word : Text} {words more : List Text}

/-! ## The flags that are found -/

theorem mem_of_named? {name : Text} {flag : Flag} (named : named? flags name = some flag) : flag ∈ flags :=
  List.mem_of_find?_eq_some named

/-- A reading of one word that knows all its flags. -/
structure WordReading.Known (reading : WordReading) (flags : List Flag) : Prop where
  given : ∀ entry ∈ reading.given, entry.1 ∈ flags
  awaiting : ∀ entry ∈ reading.awaiting, entry.2 ∈ flags

theorem known_readShort {t : Text} {reading : WordReading} (run : readShort flags t = .ok reading) :
    reading.Known flags := by
  induction t generalizing reading with
  | nil =>
    cases run
    exact ⟨by simp, by simp⟩
  | cons p rest ih =>
    rw [readShort] at run
    split at run
    · cases run
    rename_i flag named
    have known := mem_of_named? named
    split at run
    · obtain ⟨more, read, rfl⟩ := map_eq_ok.mp run
      obtain ⟨inside, awaiting⟩ := ih read
      exact ⟨List.forall_mem_cons.mpr ⟨known, inside⟩, awaiting⟩
    split at run
    · cases run
      exact ⟨by simp, by simpa using known⟩
    · cases run
      exact ⟨by simpa using known, by simp⟩

theorem known_readFlags {reading : WordReading} (run : readFlags flags word = .ok reading) : reading.Known flags := by
  have named {name : Text} {flag : Flag} (found : (if isLong name then named? flags name else none) = some flag) :
      flag ∈ flags := by
    split at found
    · exact mem_of_named? found
    · cases found
  unfold readFlags at run
  split at run
  split at run
  · rename_i flag found
    have known := named found
    split at run
    · cases run
    · cases run
      exact ⟨by simpa using known, by simp⟩
    · cases run
      exact ⟨by simpa using known, by simp⟩
    · cases run
      exact ⟨by simp, by simpa using known⟩
  · split at run
    · cases run
    · exact known_readShort run

/-- A word that flags are read from: it starts with a dash, and is not the two dashes that end the flags. -/
structure IsFlag (word : Text) : Prop where
  dashed : isFlagWord word = true
  continues : word ≠ ([.char '-', .char '-'] : Text)

section

variable {mixed : Bool} {reading : WordReading}

theorem read_of_error {error : UsageError} (isFlag : IsFlag word) (fails : readFlags flags word = .error error) :
    read flags mixed (word :: words) = .error error := by
  rw [read, if_neg isFlag.continues, if_pos isFlag.dashed, fails]

theorem read_of_whole (isFlag : IsFlag word) (whole : readFlags flags word = .ok ⟨given, none⟩) :
    read flags mixed (word :: words) = (read flags mixed words).map (.before given) := by
  rw [read, if_neg isFlag.continues, if_pos isFlag.dashed, whole]

theorem read_of_awaiting {name value : Text} {flag : Flag} (isFlag : IsFlag word)
    (awaiting : readFlags flags word = .ok ⟨given, some (name, flag)⟩) :
    read flags mixed (word :: value :: words) = (read flags mixed words).map (.before (given ++ [(flag, value)])) := by
  rw [read, if_neg isFlag.continues, if_pos isFlag.dashed, awaiting]

end

/-- Only flags that are known are read. -/
theorem mem_of_read {mixed : Bool} {reading : Reading} (run : read flags mixed words = .ok reading) :
    ∀ entry ∈ reading.given, entry.1 ∈ flags := by
  induction words using read.induct flags mixed generalizing reading with
  | case1 =>
    cases run
    simp
  | case2 =>
    rw [read, if_pos rfl] at run
    cases run
    simp
  | case3 word rest continues dashed error fails =>
    rw [read_of_error ⟨dashed, continues⟩ fails] at run
    cases run
  | case4 word rest continues dashed given whole ih =>
    rw [read_of_whole ⟨dashed, continues⟩ whole] at run
    obtain ⟨later, read, rfl⟩ := map_eq_ok.mp run
    exact List.forall_mem_append.mpr ⟨(known_readFlags whole).given, ih read⟩
  | case5 word continues dashed given name flag awaiting =>
    rw [read, if_neg continues, if_pos dashed, awaiting] at run
    cases run
  | case6 word continues dashed given name flag awaiting value rest ih =>
    rw [read_of_awaiting ⟨dashed, continues⟩ awaiting] at run
    obtain ⟨later, read, rfl⟩ := map_eq_ok.mp run
    have known := known_readFlags awaiting
    refine List.forall_mem_append.mpr ⟨List.forall_mem_append.mpr ⟨known.given, ?_⟩, ih read⟩
    exact List.forall_mem_singleton.mpr (known.awaiting _ rfl)
  | case7 word rest continues plain mixes ih =>
    rw [read, if_neg continues, if_neg plain, if_pos mixes] at run
    obtain ⟨later, read, rfl⟩ := map_eq_ok.mp run
    have inside := ih read
    exact inside
  | case8 word rest continues plain apart =>
    rw [read, if_neg continues, if_neg plain, if_neg apart] at run
    cases run
    simp

/-! ## The values of flags -/

/-- A flag without conditions: it may be left out, and every text is a value of it. -/
structure Flag.IsPlain (flag : Flag) : Prop where
  optional : flag.isRequired = false
  content : flag.content = .mark ∨ flag.content = .text

namespace Arguments

/-- What the texts that a plain flag was given with amount to. -/
def settled (given : Given) (flag : Flag) : Option Value :=
  match (given.filter fun (other, _) => other == flag).map Prod.snd with
  | [] => none
  | texts => some (if flag.content = .mark then .mark else .text (texts.getLast?.getD []))

theorem entry_of_plain {flag : Flag} (plain : flag.IsPlain) :
    entry given flag = .ok ((settled given flag).map fun value => (flag, value)) := by
  unfold entry settled
  generalize (given.filter fun (other, _) => other == flag).map Prod.snd = texts
  cases texts with
  | nil =>
    dsimp only
    rw [plain.optional]
    rfl
  | cons text texts =>
    dsimp only
    rw [Flag.value]
    rcases plain.content with mark | text
    · rw [mark]
      rfl
    · rw [text]
      rfl

theorem mapM_of_ok {ε α β : Type} {f : α → Except ε β} {g : α → β} {list : List α}
    (each : ∀ a ∈ list, f a = .ok (g a)) :
    list.mapM f = .ok (list.map g) := by
  induction list with
  | nil => rfl
  | cons a list ih =>
    obtain ⟨here, later⟩ := List.forall_mem_cons.mp each
    rw [List.mapM_cons, here, ih later]
    rfl

/-- The value for a key is found where keys are listed with their own values, as far as they have some. -/
theorem lookup_listed {κ α : Type} [DecidableEq κ] (value : κ → Option α) (keys : List κ) (key : κ) :
    ((keys.map fun key => (value key).map fun a => (key, a)).filterMap id).lookup key =
      if key ∈ keys then value key else none := by
  induction keys with
  | nil => rfl
  | cons first keys ih =>
    rw [List.map_cons, List.filterMap_cons]
    by_cases same : key = first
    · subst same
      rw [if_pos List.mem_cons_self]
      cases here : value key with
      | none =>
        refine ih.trans ?_
        rw [here, ite_self]
      | some a => exact List.lookup_cons_self
    · simp only [List.mem_cons, same, false_or]
      rw [← ih]
      cases value first with
      | none => rfl
      | some a =>
        dsimp only [Option.map_some, id]
        rw [List.lookup_cons, beq_eq_false_iff_ne.mpr same]

/-- Plain flags that are known are always read, and each of them gets what it was given with. -/
theorem ofGiven_of_plain (plain : ∀ flag ∈ flags, flag.IsPlain) (known : ∀ entry ∈ given, entry.1 ∈ flags) :
    ∃ arguments, ofGiven flags given = .ok arguments ∧ ∀ flag ∈ flags, arguments.lookup flag = settled given flag := by
  have inside : ∀ flag ∈ inOrder flags given, flag ∈ flags := by
    intro flag looked
    rcases List.mem_append.mp (List.mem_eraseDups.mp looked) with found | listed
    · obtain ⟨entry, member, rfl⟩ := List.mem_map.mp found
      exact known entry member
    · exact listed
  have read : (inOrder flags given).mapM (entry given) =
      .ok ((inOrder flags given).map fun flag => (settled given flag).map fun value => (flag, value)) :=
    mapM_of_ok fun flag member => entry_of_plain (plain flag (inside flag member))
  refine ⟨_, map_eq_ok.mpr ⟨_, read, rfl⟩, fun flag listed => ?_⟩
  have looked : flag ∈ inOrder flags given := List.mem_eraseDups.mpr (List.mem_append_right _ listed)
  rw [lookup_listed, if_pos looked]

end Arguments

namespace Invocation

/-! ## Flags that only ask for more of the log -/

/-- The flags that may stand before the name of a command. -/
def globalFlags : List Flag := usage.flags ++ [helpFlag]

theorem plain_globalFlags : ∀ flag ∈ globalFlags, flag.IsPlain := by
  have optional : ∀ flag ∈ globalFlags, flag.isRequired = false := by decide
  have content : ∀ flag ∈ globalFlags, flag.content = .mark ∨ flag.content = .text := by decide
  exact fun flag listed => ⟨optional flag listed, content flag listed⟩

/-- The flags that ask for more of the log. -/
def logFlags : List Flag := [verboseFlag, debugFlag]

/-- The words that ask for more of the log. -/
def logWords : List Text := ["--verbose", "-v", "--debug"]

/-- A word that takes the next one for the value of its flag. -/
def Awaits (word : Text) : Prop := ∃ given awaiting, readFlags globalFlags word = .ok ⟨given, some awaiting⟩

/-- More words: before the command, and not in the place of a value, there may be further ones that ask for more of the
log. -/
inductive Louder : List Text → List Text → Prop where
  | same (words : List Text) : Louder words words
  | added {word : Text} {words more : List Text} (asks : word ∈ logWords) (later : Louder words more) :
    Louder words (word :: more)
  | kept {word : Text} {words more : List Text} (isFlag : IsFlag word) (whole : ¬ Awaits word)
    (later : Louder words more) : Louder (word :: words) (word :: more)
  | valueKept {word value : Text} {words more : List Text} (isFlag : IsFlag word) (awaits : Awaits word)
    (later : Louder words more) : Louder (word :: value :: words) (word :: value :: more)

/-- What was given apart from the flags that ask for more of the log. -/
def others (given : Given) : Given := given.filter fun entry => decide (entry.1 ∉ logFlags)

theorem others_cons {flag : Flag} {text : Text} (isLog : flag ∈ logFlags) :
    others ((flag, text) :: given) = others given :=
  List.filter_cons_of_neg fun apart => of_decide_eq_true apart isLog

theorem mem_others {entry : Flag × Text} : entry ∈ others given ↔ entry ∈ given ∧ entry.1 ∉ logFlags := by
  rw [others, List.mem_filter, decide_eq_true_iff]

/-- Two readings of words that differ at most in flags that ask for more of the log. -/
inductive ReadAlike : Except UsageError Reading → Except UsageError Reading → Prop where
  | ok {reading more : Reading} (given : others reading.given = others more.given)
    (words : reading.words = more.words) :
    ReadAlike (.ok reading) (.ok more)
  | error (error : UsageError) : ReadAlike (.error error) (.error error)

theorem ReadAlike.before {reading more : Except UsageError Reading} (alike : ReadAlike reading more) (given : Given) :
    ReadAlike (reading.map (.before given)) (more.map (.before given)) := by
  cases alike with
  | ok same words =>
    refine .ok ?_ words
    rw [Reading.before, Reading.before, others, others, List.filter_append, List.filter_append]
    exact congrArg _ same
  | error error => exact .error error

theorem ReadAlike.added {reading more : Except UsageError Reading} (alike : ReadAlike reading more) {flag : Flag}
    (isLog : flag ∈ logFlags) (text : Text) : ReadAlike reading (more.map (.before [(flag, text)])) := by
  cases alike with
  | ok same words => exact .ok (same.trans (others_cons isLog).symm) words
  | error error => exact .error error

theorem read_logWord (asks : word ∈ logWords) :
    IsFlag word ∧ ∃ flag ∈ logFlags, readFlags globalFlags word = .ok ⟨[(flag, [])], none⟩ := by
  simp only [logWords, List.mem_cons, List.not_mem_nil, or_false] at asks
  rcases asks with rfl | rfl | rfl
  · exact ⟨⟨by decide, by decide⟩, verboseFlag, by decide, rfl⟩
  · exact ⟨⟨by decide, by decide⟩, verboseFlag, by decide, rfl⟩
  · exact ⟨⟨by decide, by decide⟩, debugFlag, by decide, rfl⟩

theorem read_louder (louder : Louder words more) :
    ReadAlike (read globalFlags false words) (read globalFlags false more) := by
  induction louder with
  | same words =>
    cases read globalFlags false words with
    | error error => exact .error error
    | ok reading => exact .ok rfl rfl
  | @added word words more asks later ih =>
    obtain ⟨isFlag, flag, isLog, whole⟩ := read_logWord asks
    rw [read_of_whole isFlag whole]
    exact ih.added isLog []
  | @kept word words more isFlag whole later ih =>
    rcases found : readFlags globalFlags word with error | ⟨given, _ | awaiting⟩
    · rw [read_of_error isFlag found, read_of_error isFlag found]
      exact .error error
    · rw [read_of_whole isFlag found, read_of_whole isFlag found]
      exact ih.before given
    · exact absurd ⟨given, awaiting, found⟩ whole
  | @valueKept word value words more isFlag awaits later ih =>
    obtain ⟨given, ⟨name, flag⟩, found⟩ := awaits
    rw [read_of_awaiting isFlag found, read_of_awaiting isFlag found]
    exact ih.before _

/-- Flags that do not ask for more of the log are settled by what was given apart from such flags. -/
theorem settled_others {flag : Flag} (apart : flag ∉ logFlags) :
    Arguments.settled (others given) flag = Arguments.settled given flag := by
  have same : (others given).filter (fun (other, _) => other == flag) =
      given.filter fun (other, _) => other == flag := by
    rw [others, List.filter_filter]
    refine List.filter_congr fun (other, _) _ => ?_
    by_cases same : other = flag
    · simp [same, apart]
    · simp [same]
  rw [Arguments.settled, Arguments.settled, same]

theorem any_others {flag : Flag} (apart : flag ∉ logFlags) :
    (others given).any (fun (other, _) => other == flag) = given.any fun (other, _) => other == flag := by
  rw [Bool.eq_iff_iff, List.any_eq_true, List.any_eq_true]
  constructor
  · rintro ⟨entry, member, same⟩
    exact ⟨entry, (mem_others.mp member).1, same⟩
  · rintro ⟨entry, member, same⟩
    exact ⟨entry, mem_others.mpr ⟨member, beq_iff_eq.mp same ▸ apart⟩, same⟩

section

variable {reading : Reading}

theorem readFlags_of_error {error : UsageError} (fails : read globalFlags false words = .error error) :
    usage.readFlags false words = .error (.misuse error) := by
  unfold Usage.readFlags
  dsimp only
  rw [show usage.flags ++ [helpFlag] = globalFlags from rfl, fails]
  rfl

theorem readFlags_of_help (run : read globalFlags false words = .ok reading)
    (asked : (reading.given.any fun (other, _) => other == helpFlag) = true) :
    usage.readFlags false words = .error (.help usage.page) := by
  unfold Usage.readFlags
  dsimp only
  rw [show usage.flags ++ [helpFlag] = globalFlags from rfl, run]
  change (if reading.given.any _ then _ else _) = _
  rw [if_pos asked]
  rfl

theorem readFlags_of_plain (run : read globalFlags false words = .ok reading)
    (unasked : ¬ (reading.given.any fun (other, _) => other == helpFlag) = true) :
    ∃ arguments, usage.readFlags false words = .ok (arguments, reading.words) ∧
      ∀ flag ∈ globalFlags, arguments.lookup flag = Arguments.settled reading.given flag := by
  obtain ⟨arguments, made, values⟩ := Arguments.ofGiven_of_plain plain_globalFlags (mem_of_read run)
  refine ⟨arguments, ?_, values⟩
  unfold Usage.readFlags
  dsimp only
  rw [show usage.flags ++ [helpFlag] = globalFlags from rfl, run]
  change (if reading.given.any _ then _ else _) = _
  rw [if_neg unasked, made]
  rfl

end

/-- What is read with more words that ask for the log: the same words are left, and all flags but these have the same
values. -/
inductive GroupAlike {ρ : Type} : Except Stop (Arguments × ρ) → Except Stop (Arguments × ρ) → Prop where
  | ok {arguments more : Arguments} (rest : ρ)
    (values : ∀ flag ∈ globalFlags, flag ∉ logFlags → arguments.lookup flag = more.lookup flag) :
    GroupAlike (.ok (arguments, rest)) (.ok (more, rest))
  | error (reason : Stop) : GroupAlike (.error reason) (.error reason)

theorem GroupAlike.rfl {ρ : Type} {found : Except Stop (Arguments × ρ)} : GroupAlike found found := by
  rcases found with reason | ⟨arguments, rest⟩
  · exact .error reason
  · exact .ok rest fun _ _ _ => Eq.refl _

theorem readFlags_louder (louder : Louder words more) :
    GroupAlike (usage.readFlags false words) (usage.readFlags false more) := by
  have alike := read_louder louder
  generalize first : read globalFlags false words = reading at alike
  generalize second : read globalFlags false more = reading' at alike
  cases alike with
  | error error =>
    rw [readFlags_of_error first, readFlags_of_error second]
    exact .error _
  | @ok reading reading' given words =>
    have asked : (reading.given.any fun (other, _) => other == helpFlag) =
        reading'.given.any fun (other, _) => other == helpFlag := by
      have apart : helpFlag ∉ logFlags := by decide
      rw [← any_others apart, given, any_others apart]
    by_cases help : (reading.given.any fun (other, _) => other == helpFlag) = true
    · rw [readFlags_of_help first help, readFlags_of_help second (asked ▸ help)]
      exact .error _
    · obtain ⟨arguments, read, values⟩ := readFlags_of_plain first help
      obtain ⟨arguments', read', values'⟩ := readFlags_of_plain second (asked ▸ help)
      rw [read, read', words]
      refine .ok _ fun flag listed apart => ?_
      rw [values flag listed, values' flag listed, ← settled_others apart, given, settled_others apart]

theorem Louder.ne_nil (louder : Louder words more) (nonempty : words ≠ []) : more ≠ [] := by
  cases louder with
  | same => exact nonempty
  | added asks later => exact List.cons_ne_nil _ _
  | kept isFlag whole later => exact List.cons_ne_nil _ _
  | valueKept isFlag awaits later => exact List.cons_ne_nil _ _

theorem readGroup_louder (louder : Louder words more) (nonempty : words ≠ []) :
    GroupAlike (usage.readGroup words) (usage.readGroup more) := by
  have alike := readFlags_louder louder
  unfold Usage.readGroup
  rw [if_neg (fun empty => nonempty (List.isEmpty_iff.mp empty)),
    if_neg (fun empty => louder.ne_nil nonempty (List.isEmpty_iff.mp empty))]
  dsimp only
  generalize usage.readFlags false words = first at alike ⊢
  generalize usage.readFlags false more = second at alike ⊢
  cases alike with
  | error reason => exact .error reason
  | ok rest values =>
    cases rest with
    | nil => exact .error _
    | cons name rest =>
      simp only [bind, Except.bind]
      split
      · exact .ok _ values
      · exact .rfl

/-- The invocations of two command lines that differ at most in how much of the log they ask for. -/
inductive Alike : Except Stop Invocation → Except Stop Invocation → Prop where
  | ok (invocation : Invocation) (verbosity : Verbosity) : Alike (.ok invocation) (.ok { invocation with verbosity })
  | error (reason : Stop) : Alike (.error reason) (.error reason)

/-- More words that ask for the log change nothing about what an invocation asks for, except how much of the log it
shows. -/
theorem ofWords_louder (louder : Louder words more) (nonempty : words ≠ []) : Alike (ofWords words) (ofWords more) := by
  have alike := readGroup_louder louder nonempty
  unfold ofWords
  dsimp only
  generalize usage.readGroup words = first at alike ⊢
  generalize usage.readGroup more = second at alike ⊢
  cases alike with
  | error reason => exact .error reason
  | @ok arguments arguments' rest values =>
    have text (flag : Flag) (listed : flag ∈ globalFlags) (apart : flag ∉ logFlags) :
        arguments'.text? flag = arguments.text? flag := by
      rw [Arguments.text?, Arguments.text?, values flag listed apart]
    obtain ⟨name, words⟩ := rest
    simp only [bind, Except.bind, pure, Except.pure]
    rw [text urlFlag (by decide) (by decide), text userFlag (by decide) (by decide),
      text passwordFlag (by decide) (by decide), text proxyFlag (by decide) (by decide),
      text tokenFlag (by decide) (by decide), text configFlag (by decide) (by decide)]
    exact .ok _ _

/-- Words that only ask for the log are no invocation. -/
theorem ofWords_louder_nil (louder : Louder [] more) : ∃ error, ofWords more = .error (.misuse error) := by
  by_cases empty : more = []
  · subst empty
    exact ⟨_, rfl⟩
  · have start : read globalFlags false [] = .ok {} := rfl
    obtain ⟨arguments, none, _⟩ := readFlags_of_plain start (by decide)
    have alike := readFlags_louder louder
    rw [none] at alike
    unfold ofWords Usage.readGroup
    dsimp only
    rw [if_neg (fun none => empty (List.isEmpty_iff.mp none))]
    generalize usage.readFlags false more = second at alike ⊢
    cases alike
    exact ⟨_, rfl⟩

end Invocation

end ProxyControl.CommandLine
