import Mathlib.Data.List.Basic

/-!
# The words that a shell reads

A POSIX shell takes a text apart one character at a time.  `Shell.words?` reads a text that it does
nothing else with: quotes and backslashes are carried out and removed, and there is no answer where
a character would be expanded, matched with the names of files, taken for a comment or for the end
of the command, or where a quotation stays open.  What can only be the first word of a command (an
assignment, a reserved word, an alias) is left out; the commands read here begin with a plain name.

A character is at most put into a word.  `State.size` counts what has been put, so a text of which
every character was put was read without any being carried out, and that is a matter of its
characters alone: `isBare` outside of quotes (`bare_of_run`, `run_bare`), `isQuotable` between
double ones (`quotable_of_run`, `run_quotable`).  Between single quotes everything is put
(`run_single`).
-/

namespace QuotaBoard.Shell

/-! ## 1. Reading -/

/-- What the next character is read as. -/
inductive Mode where
  | bare
  /-- After a backslash outside of quotes. -/
  | escaped
  | single
  | double
  /-- After a backslash between double quotes. -/
  | doubleEscaped
deriving DecidableEq

/-- How far a text has been read. -/
structure State where
  mode : Mode
  /-- The words that have ended. -/
  ended : List (List Char)
  /-- The word under way. -/
  word : Option (List Char)

namespace State

/-- A character is put into the word, which begins with it if there was none. -/
def put (s : State) (c : Char) : State := { s with word := some (s.word.getD [] ++ [c]) }

/-- The next character is read in another mode. -/
def goto (s : State) (mode : Mode) : State := { s with mode }

/-- A quotation begins, and a word with it if there was none. -/
def quote (s : State) (mode : Mode) : State := { s with mode, word := some (s.word.getD []) }

/-- The word ends, if there was one. -/
def endWord (s : State) : State := { s with ended := s.ended ++ s.word.toList, word := none }

/-- The words of a text that ends here. -/
def words? (s : State) : Option (List (List Char)) :=
  if s.mode = .bare then some s.endWord.ended else none

end State

/-- Characters that do not stand for themselves outside of quotes: they end the command or the line,
direct its output, begin an expansion, or stand for the names of files. -/
def isActive (c : Char) : Bool := "\n|&;<>()$\x60*?[".toList.contains c

/-- Characters that do not stand for themselves at the start of a word: that of a comment, and that
of a home directory. -/
def isActiveAtStart (c : Char) : Bool := c = '#' || c = '~'

/-- Characters that are expanded between double quotes, too. -/
def isExpanded (c : Char) : Bool := c = '$' || c = '\x60'

/-- A character outside of quotes. -/
def readBare (s : State) (c : Char) : Option State :=
  if c = ' ' || c = '\t' then some s.endWord
  else if c = '\\' then some (s.goto .escaped)
  else if c = '\'' then some (s.quote .single)
  else if c = '"' then some (s.quote .double)
  else if isActive c || (s.word.isNone && isActiveAtStart c) then none
  else some (s.put c)

/-- A character after a backslash outside of quotes.  A backslash and a line break are nothing. -/
def readEscaped (s : State) (c : Char) : State :=
  if c = '\n' then s.goto .bare else (s.put c).goto .bare

/-- A character between single quotes. -/
def readSingle (s : State) (c : Char) : State := if c = '\'' then s.goto .bare else s.put c

/-- A character between double quotes. -/
def readDouble (s : State) (c : Char) : Option State :=
  if c = '"' then some (s.goto .bare)
  else if c = '\\' then some (s.goto .doubleEscaped)
  else if isExpanded c then none
  else some (s.put c)

/-- A character after a backslash between double quotes, which stands for itself in front of most
characters. -/
def readDoubleEscaped (s : State) (c : Char) : State :=
  if c = '\n' then s.goto .double
  else if c = '"' || c = '\\' || isExpanded c then (s.put c).goto .double
  else ((s.put '\\').put c).goto .double

/-- The next character is read, if nothing is done with it but to read it.  No text for a shell has
a `NUL` in it. -/
def step (s : State) (c : Char) : Option State :=
  if c = '\x00' then none
  else match s.mode with
  | .bare => readBare s c
  | .escaped => some (readEscaped s c)
  | .single => some (readSingle s c)
  | .double => readDouble s c
  | .doubleEscaped => some (readDoubleEscaped s c)

/-- A text is read. -/
def run (s : State) (cs : List Char) : Option State := cs.foldlM step s

/-- Nothing has been read. -/
def start : State := ⟨.bare, [], none⟩

/-- The words of a text that a shell does nothing with but to read them. -/
def words? (text : String) : Option (List String) :=
  ((run start text.toList).bind State.words?).map (·.map String.ofList)

/-! ## 2. Runs -/

variable {s t : State} {c : Char} {cs : List Char} {w : List Char}

theorem run_nil (s : State) : run s [] = some s := rfl

theorem run_cons (s : State) (c : Char) (cs : List Char) :
    run s (c :: cs) = (step s c).bind fun t => run t cs := rfl

theorem run_append (s : State) (cs ds : List Char) :
    run s (cs ++ ds) = (run s cs).bind fun t => run t ds := List.foldlM_append

theorem run_cons_eq_some_iff :
    run s (c :: cs) = some t ↔ ∃ u, step s c = some u ∧ run u cs = some t := by
  rw [run_cons, Option.bind_eq_some_iff]

theorem words?_eq_some_iff {text : String} {ws : List String} :
    words? text = some ws ↔
      (run start text.toList).bind State.words? = some (ws.map String.toList) := by
  have hinverse : ∀ ws : List (List Char), (ws.map String.ofList).map String.toList = ws := by
    intro ws
    simp [Function.comp_def]
  rw [words?, Option.map_eq_some_iff]
  constructor
  · rintro ⟨ws', h, rfl⟩
    rw [h, hinverse]
  · intro h
    exact ⟨_, h, by simp [Function.comp_def]⟩

theorem step_eq_some_iff : step s c = some t ↔ c ≠ '\x00' ∧
    match s.mode with
    | .bare => readBare s c = some t
    | .escaped => readEscaped s c = t
    | .single => readSingle s c = t
    | .double => readDouble s c = some t
    | .doubleEscaped => readDoubleEscaped s c = t := by
  unfold step
  split
  · rename_i hc
    simp [hc]
  · rename_i hc
    split <;> simp [hc]

/-- All that reading a character can do. -/
inductive Effect (s : State) (c : Char) : State → Prop where
  /-- The word ends. -/
  | blank (hs : s.mode = .bare) : Effect s c s.endWord
  /-- A backslash waits for the next character. -/
  | wait (hc : c = '\\') (hs : s.mode = .bare) : Effect s c (s.goto .escaped)
  | waitQuoted (hc : c = '\\') (hs : s.mode = .double) : Effect s c (s.goto .doubleEscaped)
  | openQuote {mode : Mode} (hmode : mode = .single ∨ mode = .double) : Effect s c (s.quote mode)
  /-- A quotation ends, or a line break is removed with the backslash in front of it. -/
  | drop {mode : Mode} (hmode : mode = .bare ∨ mode = .double) : Effect s c (s.goto mode)
  /-- The character is put, without a backslash in front of it. -/
  | put {mode : Mode} (hmode : mode ≠ .escaped ∧ mode ≠ .doubleEscaped) :
      Effect s c ((s.put c).goto mode)
  /-- The character is put, with the backslash in front of it. -/
  | putBoth (hs : s.mode = .doubleEscaped) : Effect s c (((s.put '\\').put c).goto .double)

theorem effect_of_step (h : step s c = some t) : Effect s c t := by
  have hput : ∀ mode, s.mode = mode → mode ≠ .escaped ∧ mode ≠ .doubleEscaped →
      Effect s c (s.put c) := by
    rintro mode rfl hmode
    exact .put hmode
  obtain ⟨-, h⟩ := step_eq_some_iff.mp h
  cases hmode : s.mode <;> simp only [hmode] at h
  case bare =>
    unfold readBare at h
    split_ifs at h with hblank hslash hquote hdouble <;> obtain rfl := Option.some.inj h
    · exact .blank hmode
    · exact .wait hslash hmode
    · exact .openQuote (.inl rfl)
    · exact .openQuote (.inr rfl)
    · exact hput .bare hmode (by simp)
  case escaped =>
    unfold readEscaped at h
    split_ifs at h <;> subst h
    · exact .drop (.inl rfl)
    · exact .put (by simp)
  case single =>
    unfold readSingle at h
    split_ifs at h <;> subst h
    · exact .drop (.inl rfl)
    · exact hput .single hmode (by simp)
  case double =>
    unfold readDouble at h
    split_ifs at h with hquote hslash <;> obtain rfl := Option.some.inj h
    · exact .drop (.inl rfl)
    · exact .waitQuoted hslash hmode
    · exact hput .double hmode (by simp)
  case doubleEscaped =>
    unfold readDoubleEscaped at h
    split_ifs at h <;> subst h
    · exact .drop (.inr rfl)
    · exact .put (by simp)
    · exact .putBoth hmode

/-! ## 3. What has been put -/

/-- How many characters are in the words. -/
def State.chars (s : State) : Nat := s.ended.flatten.length + (s.word.getD []).length

/-- How many characters have been put, a backslash that waits for the next one included. -/
def State.size (s : State) : Nat :=
  s.chars + if s.mode = .escaped ∨ s.mode = .doubleEscaped then 1 else 0

@[simp] theorem chars_put (s : State) (c : Char) : (s.put c).chars = s.chars + 1 := by
  simp [State.chars, State.put, Nat.add_assoc]

@[simp] theorem chars_goto (s : State) (mode : Mode) : (s.goto mode).chars = s.chars := rfl

@[simp] theorem chars_quote (s : State) (mode : Mode) : (s.quote mode).chars = s.chars := rfl

@[simp] theorem chars_endWord (s : State) : s.endWord.chars = s.chars := by
  cases h : s.word <;> simp [State.chars, State.endWord, h]

@[simp] theorem mode_put (s : State) (c : Char) : (s.put c).mode = s.mode := rfl

@[simp] theorem mode_goto (s : State) (mode : Mode) : (s.goto mode).mode = mode := rfl

@[simp] theorem mode_quote (s : State) (mode : Mode) : (s.quote mode).mode = mode := rfl

@[simp] theorem mode_endWord (s : State) : s.endWord.mode = s.mode := rfl

/-- **A character is put at most once**, and not at all after a backslash outside of quotes, which
is removed. -/
theorem size_step_le (h : step s c = some t) :
    t.size ≤ s.size + if s.mode = .escaped then 0 else 1 := by
  cases effect_of_step h with
  | blank hs => simp [State.size, hs]
  | wait hc hs => simp [State.size, hs]
  | waitQuoted hc hs => simp [State.size, hs]
  | openQuote hmode => rcases hmode with rfl | rfl <;> simp [State.size, Nat.add_assoc]
  | drop hmode => rcases hmode with rfl | rfl <;> simp [State.size, Nat.add_assoc]
  | put hmode =>
    by_cases hs : s.mode = .escaped
    · simp [State.size, hs, hmode]
    · simp [State.size, hs, hmode]
  | putBoth hs => simp [State.size, hs]

theorem size_run_le (h : run s cs = some t) : t.size ≤ s.size + cs.length := by
  induction cs generalizing s with
  | nil =>
    obtain rfl := Option.some.inj h
    exact Nat.le_refl _
  | cons c cs ih =>
    obtain ⟨u, hstep, hrun⟩ := run_cons_eq_some_iff.mp h
    have hfirst : u.size ≤ s.size + 1 := by
      have hput := size_step_le hstep
      split at hput <;> omega
    have hrest := ih hrun
    rw [List.length_cons]
    omega

/-- No backslash waits after another character. -/
theorem not_waiting_of_step (hc : c ≠ '\\') (h : step s c = some t) :
    t.mode ≠ .escaped ∧ t.mode ≠ .doubleEscaped := by
  cases effect_of_step h with
  | blank hs => simp [hs]
  | wait hslash => exact absurd hslash hc
  | waitQuoted hslash => exact absurd hslash hc
  | openQuote hmode | drop hmode => rcases hmode with rfl | rfl <;> simp
  | put hmode => exact hmode
  | putBoth => simp

/-- The words that have ended stay, and the word under way only gets longer until it ends. -/
def Grows (s t : State) : Prop :=
  (t.ended = s.ended ∧ ∀ w ∈ s.word, ∃ more, t.word = some (w ++ more)) ∨
    (t.ended = s.ended ++ s.word.toList ∧ t.word = none)

/-- A word that goes on. -/
theorem Grows.of_word (more : List Char) (hended : t.ended = s.ended)
    (hword : t.word = some (s.word.getD [] ++ more)) : Grows s t := by
  refine .inl ⟨hended, fun w hw => ⟨more, ?_⟩⟩
  rw [Option.mem_def] at hw
  simpa [hw] using hword

theorem grows_step (h : step s c = some t) : Grows s t := by
  have hgoto : ∀ mode, Grows s (s.goto mode) :=
    fun mode => .inl ⟨rfl, fun w hw => ⟨[], by simpa⟩⟩
  cases effect_of_step h with
  | blank => exact .inr ⟨rfl, rfl⟩
  | wait | waitQuoted | drop => exact hgoto _
  | openQuote => exact .of_word [] rfl (by simp [State.quote])
  | put => exact .of_word [c] rfl rfl
  | putBoth => exact .of_word ['\\', c] rfl (by simp [State.put, State.goto])

/-- **What has been read is at the front of the words.** -/
theorem prefix_words (hrun : run s cs = some t) {ws : List (List Char)} (hws : t.words? = some ws) :
    s.ended <+: ws ∧ ∀ w ∈ s.word, ∃ more, s.ended ++ [w ++ more] <+: ws := by
  induction cs generalizing s with
  | nil =>
    obtain rfl := Option.some.inj hrun
    unfold State.words? at hws
    split at hws
    · obtain rfl := Option.some.inj hws
      refine ⟨List.prefix_append _ _, fun w hw => ⟨[], ?_⟩⟩
      rw [Option.mem_def] at hw
      simp [State.endWord, hw]
    · cases hws
  | cons c cs ih =>
    obtain ⟨u, hstep, hrest⟩ := run_cons_eq_some_iff.mp hrun
    obtain ⟨hended, hword⟩ := ih hrest
    rcases grows_step hstep with ⟨hsame, hlonger⟩ | ⟨hended', -⟩
    · rw [hsame] at hended hword
      refine ⟨hended, fun w hw => ?_⟩
      obtain ⟨more, hmore⟩ := hlonger w hw
      obtain ⟨more', hmore'⟩ := hword _ hmore
      exact ⟨more ++ more', by rwa [← List.append_assoc]⟩
    · rw [hended'] at hended
      refine ⟨(List.prefix_append _ _).trans hended, fun w hw => ⟨[], ?_⟩⟩
      rw [Option.mem_def] at hw
      simpa [hw] using hended

/-! ## 4. Outside of quotes -/

/-- Characters that are put outside of quotes. -/
def isInert (c : Char) : Bool :=
  !(c = '\x00' || c = ' ' || c = '\t' || c = '\\' || c = '\'' || c = '"' || isActive c)

/-- Outside of quotes the text stands for itself. -/
def isBare (cs : List Char) : Bool := cs.all isInert && !(cs.head?.any isActiveAtStart)

theorem step_bare (hs : s.mode = .bare) (hc : isInert c = true)
    (hstart : s.word = none → isActiveAtStart c = false) : step s c = some (s.put c) := by
  simp only [isInert, Bool.not_eq_true', Bool.or_eq_false_iff, decide_eq_false_iff_not] at hc
  obtain ⟨⟨⟨⟨⟨⟨hnul, hspace⟩, htab⟩, hslash⟩, hquote⟩, hdouble⟩, hactive⟩ := hc
  have hword : (s.word.isNone && isActiveAtStart c) = false := by
    cases hw : s.word with
    | none => simp [hstart hw]
    | some w => rfl
  refine step_eq_some_iff.mpr ⟨hnul, ?_⟩
  simp [hs, readBare, hspace, htab, hslash, hquote, hdouble, hactive, hword]

/-- Outside of quotes a character is put only if it is inert, and a backslash if it waits. -/
theorem of_step_bare (hs : s.mode = .bare) (h : step s c = some t) (hput : s.size < t.size) :
    (isInert c = true ∧ (s.word = none → isActiveAtStart c = false) ∧ t = s.put c) ∨
      t.mode = .escaped := by
  obtain ⟨hnul, h⟩ := step_eq_some_iff.mp h
  simp only [hs] at h
  unfold readBare at h
  split_ifs at h with hblank hslash hquote hdouble hactive <;> obtain rfl := Option.some.inj h
  · simp [State.size, hs] at hput
  · exact .inr rfl
  · simp [State.size, hs] at hput
  · simp [State.size, hs] at hput
  · simp only [Bool.or_eq_true, Bool.and_eq_true, not_or, not_and, Bool.not_eq_true] at hactive
    refine .inl ⟨?_, fun hw => hactive.2 (by simp [hw]), rfl⟩
    simp_all [isInert]

/-- **A text that is put as it is stands for itself**, but for a backslash at its end. -/
theorem bare_of_run (hs : s.mode = .bare) (h : run s cs = some t)
    (hput : s.size + cs.length ≤ t.size) :
    (cs.all isInert = true ∧ (s.word = none → cs.head?.any isActiveAtStart = false) ∧
      t.mode = .bare) ∨ t.mode = .escaped := by
  induction cs generalizing s with
  | nil =>
    obtain rfl := Option.some.inj h
    exact .inl ⟨rfl, fun _ => rfl, hs⟩
  | cons c cs ih =>
    obtain ⟨u, hstep, hrun⟩ := run_cons_eq_some_iff.mp h
    have hrest := size_run_le hrun
    rw [List.length_cons] at hput
    rcases of_step_bare hs hstep (by omega) with ⟨hc, hstart, rfl⟩ | hescaped
    · have hfirst := size_step_le hstep
      rw [if_neg (by simp [hs])] at hfirst
      have hbare : (s.put c).mode = .bare := hs
      rcases ih hbare hrun (by omega) with ⟨hcs, -, ht⟩ | hend
      · exact .inl ⟨by simp [hc, hcs], fun hw => by simpa using hstart hw, ht⟩
      · exact .inr hend
    · -- the backslash is removed with the next character, if there is one
      cases cs with
      | nil =>
        obtain rfl := Option.some.inj hrun
        exact .inr hescaped
      | cons d cs =>
        obtain ⟨v, hnext, hrun'⟩ := run_cons_eq_some_iff.mp hrun
        have hlost := size_step_le hnext
        rw [if_pos hescaped] at hlost
        have hfirst := size_step_le hstep
        rw [if_neg (by simp [hs])] at hfirst
        have hrest' := size_run_le hrun'
        rw [List.length_cons] at hput
        omega

/-- Several characters are put. -/
def State.putAll (s : State) (cs : List Char) : State :=
  { s with word := some (s.word.getD [] ++ cs) }

theorem State.putAll_put (s : State) (c : Char) (cs : List Char) :
    (s.put c).putAll cs = s.putAll (c :: cs) := by
  simp [putAll, put]

theorem size_putAll (s : State) (cs : List Char) : (s.putAll cs).size = s.size + cs.length := by
  have hchars : (s.putAll cs).chars = s.chars + cs.length := by
    simp [State.chars, State.putAll, Nat.add_assoc]
  have hmode : (s.putAll cs).mode = s.mode := rfl
  rw [State.size, State.size, hchars, hmode]
  omega

theorem run_inert (hs : s.mode = .bare) (hw : s.word = some w) (h : cs.all isInert = true) :
    run s cs = some (s.putAll cs) := by
  induction cs generalizing s w with
  | nil =>
    obtain ⟨mode, ended, word⟩ := s
    subst hw
    simp [State.putAll, run_nil]
  | cons c cs ih =>
    rw [List.all_cons, Bool.and_eq_true] at h
    have hstep : step s c = some (s.put c) :=
      step_bare hs h.1 fun hnone => by simp [hnone] at hw
    have hbare : (s.put c).mode = .bare := hs
    rw [run_cons, hstep, Option.bind_some, ih hbare rfl h.2, State.putAll_put]

/-- A word that stands for itself is put. -/
theorem run_bare (hs : s.mode = .bare) (hne : cs ≠ []) (h : isBare cs = true) :
    run s cs = some (s.putAll cs) := by
  obtain ⟨c, cs, rfl⟩ := List.exists_cons_of_ne_nil hne
  simp only [isBare, List.all_cons, List.head?_cons, Option.any_some, Bool.and_eq_true,
    Bool.not_eq_true'] at h
  have hbare : (s.put c).mode = .bare := hs
  rw [run_cons, step_bare hs h.1.1 fun _ => h.2, Option.bind_some, run_inert hbare rfl h.1.2,
    State.putAll_put]

/-- A blank ends the word. -/
theorem run_word (ended : List (List Char)) (word : Option (List Char)) (hne : cs ≠ [])
    (h : isBare cs = true) : run ⟨.bare, ended, word⟩ (cs ++ [' ']) =
      some ⟨.bare, ended ++ [word.getD [] ++ cs], none⟩ := by
  rw [run_append, run_bare rfl hne h]
  rfl

/-! ## 5. Between double quotes -/

/-- Characters that a quotation between double quotes can hold without being ended or expanded. -/
def isQuiet (c : Char) : Bool := !(c = '\x00' || c = '"' || isExpanded c)

/-- Between double quotes the text stands for itself: it is quiet, and every backslash stands in
front of a character that it leaves alone. -/
def isQuotable : List Char → Bool
  | [] => true
  | c :: rest =>
    isQuiet c && (c ≠ '\\' || rest.head?.any fun d => d ≠ '\\' && d ≠ '\n') && isQuotable rest

theorem isQuiet_iff : isQuiet c = true ↔ c ≠ '\x00' ∧ c ≠ '"' ∧ isExpanded c = false := by
  simp [isQuiet, and_assoc]

theorem isQuotable_cons (hc : c ≠ '\\') :
    isQuotable (c :: cs) = true ↔ isQuiet c = true ∧ isQuotable cs = true := by
  simp [isQuotable, hc]

theorem isQuotable_backslash : isQuotable ('\\' :: c :: cs) = true ↔
    isQuiet c = true ∧ (c ≠ '\\' ∧ c ≠ '\n') ∧ isQuotable cs = true := by
  have hquiet : isQuiet '\\' = true := by decide
  constructor
  · intro h
    simp only [isQuotable, List.head?_cons, Option.any_some, Bool.and_eq_true, Bool.or_eq_true,
      decide_eq_true_eq, ne_eq, not_true_eq_false, false_or] at h
    exact ⟨h.2.1.1, h.1.2, h.2.2⟩
  · rintro ⟨hc, ⟨hslash, hbreak⟩, hcs⟩
    simp [isQuotable, hquiet, hc, hslash, hbreak, hcs]

/-- Between double quotes a character is put only if it is quiet, and a backslash if it waits. -/
theorem of_step_double (hs : s.mode = .double) (h : step s c = some t) (hput : s.size < t.size) :
    (isQuiet c = true ∧ c ≠ '\\' ∧ t = s.put c) ∨ (c = '\\' ∧ t = s.goto .doubleEscaped) := by
  obtain ⟨hnul, h⟩ := step_eq_some_iff.mp h
  simp only [hs] at h
  unfold readDouble at h
  split_ifs at h with hquote hslash hexpanded <;> obtain rfl := Option.some.inj h
  · simp [State.size, hs] at hput
  · exact .inr ⟨hslash, rfl⟩
  · exact .inl ⟨by simp [isQuiet, hnul, hquote, hexpanded], hslash, rfl⟩

/-- After a backslash, both are put only if the character is one that the backslash leaves alone. -/
theorem of_step_doubleEscaped (hs : s.mode = .doubleEscaped) (h : step s c = some t)
    (hput : s.size < t.size) :
    isQuiet c = true ∧ (c ≠ '\\' ∧ c ≠ '\n') ∧ t = ((s.put '\\').put c).goto .double := by
  obtain ⟨hnul, h⟩ := step_eq_some_iff.mp h
  simp only [hs] at h
  unfold readDoubleEscaped at h
  split_ifs at h with hbreak htaken <;> subst h
  · exact absurd hput (by simp [State.size, hs])
  · simp [State.size, hs] at hput
  · simp only [Bool.or_eq_true, decide_eq_true_eq, not_or] at htaken
    exact ⟨by simp [isQuiet, hnul, htaken], ⟨htaken.1.2, hbreak⟩, rfl⟩

/-- A backslash that has been read and waits for the next character. -/
def State.waiting (s : State) : List Char := if s.mode = .doubleEscaped then ['\\'] else []

theorem waiting_double (hs : s.mode = .double) : s.waiting = [] := by
  simp [State.waiting, hs]

theorem waiting_doubleEscaped (hs : s.mode = .doubleEscaped) : s.waiting = ['\\'] := by
  simp [State.waiting, hs]

/-- **Between double quotes a text that is put as it is stands for itself**, but for a backslash at
its end. -/
theorem quotable_of_run (hs : s.mode = .double ∨ s.mode = .doubleEscaped) (h : run s cs = some t)
    (hput : s.size + cs.length ≤ t.size) :
    (isQuotable (s.waiting ++ cs) = true ∧ t.mode = .double) ∨ t.mode = .doubleEscaped := by
  induction cs generalizing s with
  | nil =>
    obtain rfl := Option.some.inj h
    rcases hs with hs | hs
    · exact .inl ⟨by rw [waiting_double hs]; rfl, hs⟩
    · exact .inr hs
  | cons c cs ih =>
    obtain ⟨u, hstep, hrun⟩ := run_cons_eq_some_iff.mp h
    have hrest := size_run_le hrun
    have hfirst := size_step_le hstep
    have hmode : s.mode ≠ .escaped := by rcases hs with hs | hs <;> simp [hs]
    rw [if_neg hmode] at hfirst
    rw [List.length_cons] at hput
    rcases hs with hs | hs
    · rw [waiting_double hs, List.nil_append]
      rcases of_step_double hs hstep (by omega) with ⟨hc, hslash, rfl⟩ | ⟨rfl, rfl⟩
      · have hdouble : (s.put c).mode = .double := hs
        have hcs := ih (.inl hdouble) hrun (by omega)
        rw [waiting_double hdouble, List.nil_append] at hcs
        rwa [isQuotable_cons hslash, and_iff_right hc]
      · exact ih (.inr rfl) hrun (by omega)
    · rw [waiting_doubleEscaped hs, List.singleton_append]
      obtain ⟨hc, hplain, rfl⟩ := of_step_doubleEscaped hs hstep (by omega)
      have hcs := ih (.inl rfl) hrun (by omega)
      rw [waiting_double rfl, List.nil_append] at hcs
      rwa [isQuotable_backslash, and_iff_right hc, and_iff_right hplain]

/-- A text that stands for itself between double quotes is put. -/
theorem run_quotable (hs : s.mode = .double ∨ s.mode = .doubleEscaped) (hw : s.word = some w)
    (h : isQuotable (s.waiting ++ cs) = true) :
    run s cs = some ((s.putAll (s.waiting ++ cs)).goto .double) := by
  induction cs generalizing s w with
  | nil =>
    rcases hs with hs | hs
    · obtain ⟨mode, ended, word⟩ := s
      subst hs hw
      simp [State.putAll, State.waiting, State.goto, run_nil]
    · simp [State.waiting, hs, isQuotable, isQuiet] at h
  | cons c cs ih =>
    rcases hs with hs | hs
    · rw [waiting_double hs, List.nil_append] at h ⊢
      by_cases hslash : c = '\\'
      · -- the backslash waits, and is put with the next character
        have hstep : step s c = some (s.goto .doubleEscaped) := by
          simp [step, hs, readDouble, hslash]
        have hmode : (s.goto .doubleEscaped).mode = .doubleEscaped := rfl
        have hwait := waiting_doubleEscaped hmode
        rw [run_cons, hstep, Option.bind_some, ih (.inr hmode) hw (by rwa [hwait, ← hslash]),
          hwait, ← hslash]
        rfl
      · obtain ⟨hc, hcs⟩ := (isQuotable_cons hslash).mp h
        obtain ⟨hnul, hquote, hexpanded⟩ := isQuiet_iff.mp hc
        have hstep : step s c = some (s.put c) := by
          simp [step, hs, readDouble, hnul, hquote, hslash, hexpanded]
        have hmode : (s.put c).mode = .double := hs
        have hwait := waiting_double hmode
        rw [run_cons, hstep, Option.bind_some, ih (.inl hmode) rfl (by rwa [hwait]), hwait,
          List.nil_append, State.putAll_put]
    · rw [waiting_doubleEscaped hs, List.singleton_append] at h ⊢
      obtain ⟨hc, ⟨hslash, hbreak⟩, hcs⟩ := isQuotable_backslash.mp h
      obtain ⟨hnul, hquote, hexpanded⟩ := isQuiet_iff.mp hc
      have hstep : step s c = some (((s.put '\\').put c).goto .double) := by
        simp [step, hs, readDoubleEscaped, hnul, hquote, hslash, hexpanded, hbreak]
      have hmode : (((s.put '\\').put c).goto .double).mode = .double := rfl
      have hwait := waiting_double hmode
      rw [run_cons, hstep, Option.bind_some, ih (.inl hmode) rfl (by rwa [hwait]), hwait,
        List.nil_append, ← State.putAll_put, ← State.putAll_put]
      rfl

/-! ## 6. Between single quotes -/

/-- **Between single quotes a text is put as it is.** -/
theorem run_single (hs : s.mode = .single) (hw : cs = [] → s.word.isSome = true)
    (h : ∀ c ∈ cs, c ≠ '\x00' ∧ c ≠ '\'') : run s cs = some (s.putAll cs) := by
  induction cs generalizing s with
  | nil =>
    obtain ⟨mode, ended, word⟩ := s
    obtain ⟨w, rfl⟩ := Option.isSome_iff_exists.mp (hw rfl)
    simp [State.putAll, run_nil]
  | cons c cs ih =>
    obtain ⟨⟨hnul, hquote⟩, hcs⟩ := List.forall_mem_cons.mp h
    have hstep : step s c = some (s.put c) := by
      refine step_eq_some_iff.mpr ⟨hnul, ?_⟩
      simp [hs, readSingle, hquote]
    have hsingle : (s.put c).mode = .single := hs
    rw [run_cons, hstep, Option.bind_some, ih hsingle (fun _ => rfl) hcs, State.putAll_put]

end QuotaBoard.Shell
