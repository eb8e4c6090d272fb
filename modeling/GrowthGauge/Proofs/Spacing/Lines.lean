import GrowthGauge.Proofs.Spacing.Respaced
import GrowthGauge.Proofs.Text.Joined

namespace GrowthGauge

namespace Text

/-! ## Readers of lines

A reader goes from line to line. Both trackers pass over blank lines and do not see the
blanks that end a line, so blank text around a snippet adds nothing to what they read. -/

structure IgnoresBlanks {State : Type} (read : State → Text → State) : Prop where
  blank : ∀ state (line : Text), line.isAllBlank = true → read state line = state
  trailing : ∀ state line (after : Text), after.isAllBlank = true →
    read state (line ++ after) = read state line

theorem isBlank_of_isLineBreak {character : Char} (isBreak : isLineBreak character = true) :
    isBlank character = true := by
  simp only [isLineBreak, Bool.or_eq_true, Bool.and_eq_true, decide_eq_true_eq,
    beq_iff_eq] at isBreak
  rw [isBlank_iff, mem_blankCodes_iff]
  omega

section

variable {State : Type} {read : State → Text → State}

/-- With nothing but blanks left, only the line that has begun is still to be read. -/
theorem foldl_linesFrom_blank (ignores : IgnoresBlanks read) {rest : Text}
    (blank : rest.isAllBlank = true) (current : Text) (state : State) :
    (linesFrom current rest).foldl read state = read state current.reverse := by
  fun_induction linesFrom current rest generalizing state with
  | case1 => exact (ignores.blank state [] rfl).symm
  | case2 head tail => rfl
  | case3 current rest induction =>
      have restBlank := (isAllBlank_cons.mp (isAllBlank_cons.mp blank).2).2
      rw [List.foldl_cons, induction restBlank]
      exact ignores.blank _ [] rfl
  | case4 current character rest _ isBreak induction =>
      rw [List.foldl_cons, induction (isAllBlank_cons.mp blank).2]
      exact ignores.blank _ [] rfl
  | case5 current character rest _ unbroken induction =>
      rcases isAllBlank_cons.mp blank with ⟨characterBlank, restBlank⟩
      rw [induction restBlank, List.reverse_cons]
      exact ignores.trailing state current.reverse [character]
        (isAllBlank_cons.mpr ⟨characterBlank, rfl⟩)

theorem linesFrom_cons_of_isLineBreak {character : Char}
    (isBreak : isLineBreak character = true) {rest : Text}
    (single : ∀ following, character = '\r' → rest = '\n' :: following → False) (current : Text) :
    linesFrom current (character :: rest) = current.reverse :: linesFrom [] rest := by
  rw [linesFrom, if_pos isBreak]
  exact single

/-- A carriage return that ends the text forms one line break with a line feed after it. -/
theorem foldl_linesFrom_append_blank (ignores : IgnoresBlanks read) {after : Text}
    (blank : after.isAllBlank = true) (current text : Text) (state : State) :
    (linesFrom current (text ++ after)).foldl read state =
      (linesFrom current text).foldl read state := by
  fun_induction linesFrom current text generalizing state with
  | case1 =>
      rw [List.nil_append, foldl_linesFrom_blank ignores blank]
      exact ignores.blank state [] rfl
  | case2 head tail =>
      rw [List.nil_append, foldl_linesFrom_blank ignores blank]
      rfl
  | case3 current rest induction =>
      have lines : linesFrom current ('\r' :: '\n' :: rest ++ after) =
          current.reverse :: linesFrom [] (rest ++ after) := by
        rw [List.cons_append, List.cons_append, linesFrom]
      rw [lines, List.foldl_cons, List.foldl_cons, induction]
  | case4 current character rest single isBreak induction =>
      cases rest with
      | cons next rest =>
          have still (following : Text) (isReturn : character = '\r')
              (split : next :: rest ++ after = '\n' :: following) : False := by
            rw [List.cons_append] at split
            rcases List.cons_eq_cons.mp split with ⟨isLineFeed, _⟩
            exact single rest isReturn (by rw [isLineFeed])
          rw [List.cons_append, linesFrom_cons_of_isLineBreak isBreak still, List.foldl_cons,
            List.foldl_cons, induction]
      | nil =>
          have whole : Text.isAllBlank ([character] ++ after) = true :=
            isAllBlank_cons.mpr ⟨isBlank_of_isLineBreak isBreak, blank⟩
          rw [foldl_linesFrom_blank ignores whole]
          rfl
  | case5 current character rest single unbroken induction =>
      rw [List.cons_append, linesFrom_cons (Bool.eq_false_iff.mpr unbroken), induction]

/-- Blank lines before a text are passed over. -/
theorem foldl_linesFrom_blank_append (ignores : IgnoresBlanks read) {before : Text}
    (blank : before.isAllBlank = true) {current : Text} (currentBlank : current.isAllBlank = true)
    (text : Text) (state : State) :
    (linesFrom current (before ++ '\n' :: text)).foldl read state =
      (linesFrom [] text).foldl read state := by
  have passed {current : Text} (currentBlank : current.isAllBlank = true) (lines : List Text)
      (state : State) : (current.reverse :: lines).foldl read state = lines.foldl read state := by
    have reversed : isAllBlank current.reverse = true := by
      rw [isAllBlank, List.all_reverse]
      exact currentBlank
    rw [List.foldl_cons, ignores.blank state _ reversed]
  fun_induction linesFrom current before generalizing state with
  | case1 => rw [List.nil_append, linesFrom_break, passed rfl]
  | case2 head tail => rw [List.nil_append, linesFrom_break, passed currentBlank]
  | case3 current rest induction =>
      have restBlank := (isAllBlank_cons.mp (isAllBlank_cons.mp blank).2).2
      have lines : linesFrom current ('\r' :: '\n' :: rest ++ '\n' :: text) =
          current.reverse :: linesFrom [] (rest ++ '\n' :: text) := by
        rw [List.cons_append, List.cons_append, linesFrom]
      rw [lines, passed currentBlank, induction restBlank rfl]
  | case4 current character rest single isBreak induction =>
      have restBlank := (isAllBlank_cons.mp blank).2
      cases rest with
      | cons next rest =>
          have still (following : Text) (isReturn : character = '\r')
              (split : next :: rest ++ '\n' :: text = '\n' :: following) : False := by
            rw [List.cons_append] at split
            rcases List.cons_eq_cons.mp split with ⟨isLineFeed, _⟩
            exact single rest isReturn (by rw [isLineFeed])
          rw [List.cons_append, linesFrom_cons_of_isLineBreak isBreak still, passed currentBlank,
            induction restBlank rfl]
      | nil =>
          by_cases isReturn : character = '\r'
          · have lines : linesFrom current (['\r'] ++ '\n' :: text) =
                current.reverse :: linesFrom [] text := by
              rw [List.singleton_append, linesFrom]
            rw [isReturn, lines, passed currentBlank]
          · have still (following : Text) (equal : character = '\r')
                (_ : '\n' :: text = '\n' :: following) : False :=
              isReturn equal
            rw [List.singleton_append, linesFrom_cons_of_isLineBreak isBreak still,
              passed currentBlank, linesFrom_break, passed rfl]
  | case5 current character rest single unbroken induction =>
      rcases isAllBlank_cons.mp blank with ⟨characterBlank, restBlank⟩
      rw [List.cons_append, linesFrom_cons (Bool.eq_false_iff.mpr unbroken),
        induction restBlank (isAllBlank_cons.mpr ⟨characterBlank, currentBlank⟩)]

/-- Blank text around a text adds nothing to what is read, if the text still begins a line. -/
theorem foldl_lines_surrounded (ignores : IgnoresBlanks read) {before after : Text}
    (blank : before.isAllBlank = true)
    (beginsLine : before = [] ∨ before.getLast? = some '\n') (afterBlank : after.isAllBlank = true)
    (text : Text) (state : State) :
    (lines (before ++ text ++ after)).foldl read state = (lines text).foldl read state := by
  rw [lines, foldl_linesFrom_append_blank ignores afterBlank, lines]
  rcases beginsLine with empty | ends
  · rw [empty]
    rfl
  · rcases List.getLast?_eq_some_iff.mp ends with ⟨front, split⟩
    rw [split] at blank ⊢
    rw [List.append_assoc]
    exact foldl_linesFrom_blank_append ignores (isAllBlank_append.mp blank).1 rfl text state

end

/-! ## Line feeds spelled otherwise

A text is respelled when every line feed in it gets other blanks before it and behind
it. -/

def respelled (before after text : Text) : Text :=
  text.flatMap fun character =>
    if character == '\n' then before ++ '\n' :: after else [character]

/-- Every line feed with a carriage return before it. -/
def withReturns (text : Text) : Text :=
  respelled ['\r'] [] text

/-- Every line with the same run before it. -/
def indentedBy (indent : Text) (text : Text) : Text :=
  indent ++ respelled [] indent text

example : withReturns "a\nb\n".toList = "a\r\nb\r\n".toList := rfl

example : indentedBy [' '] "a\nb\n".toList = " a\n b\n ".toList := rfl

section

variable {before after : Text}

theorem respelled_cons_lineFeed (rest : Text) :
    respelled before after ('\n' :: rest) =
      before ++ '\n' :: (after ++ respelled before after rest) := by
  simp [respelled, List.append_assoc]

theorem respelled_cons {character : Char} (different : character ≠ '\n') (rest : Text) :
    respelled before after (character :: rest) = character :: respelled before after rest := by
  rw [respelled, List.flatMap_cons, beq_false_of_ne different]
  rfl

theorem respelled_append (first second : Text) :
    respelled before after (first ++ second) =
      respelled before after first ++ respelled before after second :=
  List.flatMap_append

/-- The blanks that go before a line feed end no line, and those behind it indent one. -/
structure IsSpelling (before after : Text) : Prop where
  blank : before.isAllBlank = true
  unbroken : '\n' ∉ before
  tabsAndSpaces : after.all IndentedHeader.isTabOrSpace = true

theorem unbroken_of_tabsAndSpaces {text : Text}
    (accepted : text.all IndentedHeader.isTabOrSpace = true) :
    ∀ character ∈ text, isLineBreak character = false := by
  intro character member
  have isAccepted := List.all_eq_true.mp accepted character member
  rw [IndentedHeader.isTabOrSpace, Bool.or_eq_true, beq_iff_eq, beq_iff_eq] at isAccepted
  rcases isAccepted with rfl | rfl <;> rfl

theorem isAllBlank_of_tabsAndSpaces {text : Text}
    (accepted : text.all IndentedHeader.isTabOrSpace = true) : text.isAllBlank = true := by
  rw [List.all_eq_true] at accepted
  exact isAllBlank_iff.mpr fun character member =>
    isBlank_of_isTabOrSpace (accepted character member)

theorem opensLine_append_of_not_mem {front : Text} (unbroken : '\n' ∉ front) (text : Text) :
    opensLine (front ++ text) = opensLine text := by
  induction front with
  | nil => rfl
  | cons head front induction =>
      rw [List.mem_cons, not_or] at unbroken
      rw [List.cons_append, opensLine, induction unbroken.2,
        beq_false_of_ne (Ne.symm unbroken.1), Bool.false_and, Bool.false_or]

theorem lineFeed_not_mem_of_tabsAndSpaces {text : Text}
    (accepted : text.all IndentedHeader.isTabOrSpace = true) : '\n' ∉ text := by
  intro member
  rw [List.all_eq_true] at accepted
  cases accepted '\n' member

theorem respelled_eq_self {text : Text} (unbroken : '\n' ∉ text) :
    respelled before after text = text := by
  induction text with
  | nil => rfl
  | cons head rest induction =>
      rw [List.mem_cons, not_or] at unbroken
      rw [respelled_cons (Ne.symm unbroken.1), induction unbroken.2]

theorem mem_respelled_lineFeed (text : Text) :
    '\n' ∈ respelled before after text ↔ '\n' ∈ text := by
  constructor
  · intro member
    by_contra unbroken
    rw [respelled_eq_self unbroken] at member
    exact unbroken member
  · intro member
    exact List.mem_flatMap.mpr ⟨'\n', member, by simp⟩

theorem all_respelled (text : Text) :
    (respelled before after text).all IndentedHeader.isTabOrSpace =
      text.all IndentedHeader.isTabOrSpace := by
  by_cases unbroken : '\n' ∈ text
  · have refuses {text : Text} (member : '\n' ∈ text) :
        text.all IndentedHeader.isTabOrSpace = false := by
      rw [Bool.eq_false_iff]
      intro accepted
      exact lineFeed_not_mem_of_tabsAndSpaces accepted member
    rw [refuses unbroken, refuses ((mem_respelled_lineFeed text).mpr unbroken)]
  · rw [respelled_eq_self unbroken]

theorem respelled_gap {character : Char} (inked : isBlank character = false) (gap rest : Text) :
    respelled before after (gap ++ character :: rest) =
      respelled before after gap ++ character :: respelled before after rest := by
  have different : character ≠ '\n' := by
    rintro rfl
    cases inked
  rw [respelled_append, respelled_cons different]

variable (spelling : IsSpelling before after)

include spelling

theorem isAllBlank_respelled {text : Text} (blank : text.isAllBlank = true) :
    (respelled before after text).isAllBlank = true := by
  have afterBlank := isAllBlank_of_tabsAndSpaces spelling.tabsAndSpaces
  have lineFeed : isAllBlank (before ++ '\n' :: after) = true :=
    isAllBlank_append.mpr ⟨spelling.blank, isAllBlank_cons.mpr ⟨rfl, afterBlank⟩⟩
  rw [respelled, isAllBlank, List.all_flatMap, List.all_eq_true]
  intro character member
  split
  · exact lineFeed
  · exact isAllBlank_cons.mpr ⟨isAllBlank_iff.mp blank character member, rfl⟩

theorem opensLine_respelled (text : Text) :
    opensLine (respelled before after text) = opensLine text := by
  induction text with
  | nil => rfl
  | cons head rest induction =>
      by_cases lineFeed : head = '\n'
      · rw [lineFeed, respelled_cons_lineFeed, opensLine_append_of_not_mem spelling.unbroken,
          opensLine, opensLine, List.all_append, spelling.tabsAndSpaces, all_respelled,
          opensLine_append_of_not_mem (lineFeed_not_mem_of_tabsAndSpaces spelling.tabsAndSpaces),
          induction, Bool.true_and]
      · rw [respelled_cons lineFeed, opensLine, opensLine, induction, beq_false_of_ne lineFeed,
          Bool.false_and, Bool.false_and]

theorem sameGap_respelled {gap : Text} (blank : gap.isAllBlank = true) :
    SameGap gap (respelled before after gap) := by
  refine ⟨blank, isAllBlank_respelled spelling blank, ?_, (mem_respelled_lineFeed gap).symm,
    (opensLine_respelled spelling gap).symm⟩
  constructor
  · intro empty
    rw [empty]
    rfl
  · intro empty
    cases gap with
    | nil => rfl
    | cons head rest =>
        have nothing := (List.flatMap_eq_nil_iff.mp empty) head List.mem_cons_self
        split at nothing
        · exact absurd nothing (by simp)
        · cases nothing

theorem respaced_respelled (text : Text) : Respaced text (respelled before after text) := by
  induction text using gapInduction with
  | ending gap blank => exact .ending blank (isAllBlank_respelled spelling blank)
  | ink gap rest character blank inked induction =>
      rw [respelled_gap inked]
      exact .ink (sameGap_respelled spelling blank) inked induction

/-- A respelled text has the same ink, also when its first line is indented. -/
theorem sameInk_respelled {lead : Text}
    (tabsAndSpaces : lead.all IndentedHeader.isTabOrSpace = true) (text : Text) :
    SameInk (lead ++ respelled before after text) text := by
  have leadBlank := isAllBlank_of_tabsAndSpaces tabsAndSpaces
  have led {gap : Text} (blank : gap.isAllBlank = true) :
      isAllBlank (lead ++ respelled before after gap) = true :=
    isAllBlank_append.mpr ⟨leadBlank, isAllBlank_respelled spelling blank⟩
  rcases exists_gap text with blank | ⟨gap, character, rest, split, blank, inked⟩
  · exact .ending (led blank) blank
  · rw [split, respelled_gap inked, ← List.append_assoc]
    refine .ink (led blank) blank ?_ inked (respaced_respelled spelling rest).symm
    rw [opensLine, opensLine, List.all_append, tabsAndSpaces, all_respelled,
      opensLine_append_of_not_mem (lineFeed_not_mem_of_tabsAndSpaces tabsAndSpaces),
      opensLine_respelled spelling, Bool.true_and]

omit spelling

theorem sameInk_withReturns (text : Text) : SameInk (withReturns text) text := by
  have spelling : IsSpelling ['\r'] [] := ⟨rfl, by decide, rfl⟩
  have same := sameInk_respelled spelling (Eq.refl (List.all [] IndentedHeader.isTabOrSpace)) text
  rwa [List.nil_append] at same

theorem sameInk_indentedBy {indent : Text}
    (tabsAndSpaces : indent.all IndentedHeader.isTabOrSpace = true) (text : Text) :
    SameInk (indentedBy indent text) text :=
  sameInk_respelled ⟨rfl, List.not_mem_nil, tabsAndSpaces⟩ tabsAndSpaces text

end

/-! ## Blank text around a text -/

theorem respaced_append_blank {after : Text} (blank : after.isAllBlank = true) (text : Text) :
    Respaced (text ++ after) text := by
  induction text using gapInduction with
  | ending gap gapBlank => exact .ending (isAllBlank_append.mpr ⟨gapBlank, blank⟩) gapBlank
  | ink gap rest character gapBlank inked induction =>
      rw [List.append_assoc]
      exact .ink (.refl gapBlank) inked induction

theorem opensLine_append_lineFeed (front gap : Text) :
    opensLine (front ++ '\n' :: gap) = opensLine ('\n' :: gap) := by
  induction front with
  | nil => rfl
  | cons head front induction =>
      have refused : (front ++ '\n' :: gap).all IndentedHeader.isTabOrSpace = false := by
        rw [List.all_append, List.all_cons]
        exact Bool.and_false _
      rw [List.cons_append, opensLine, refused, induction, Bool.and_false, Bool.false_or]

theorem sameInk_surrounded {before after : Text} (blank : before.isAllBlank = true)
    (beginsLine : before = [] ∨ before.getLast? = some '\n')
    (afterBlank : after.isAllBlank = true) (text : Text) :
    SameInk (before ++ text ++ after) text := by
  rcases exists_gap text with textBlank | ⟨gap, character, rest, split, gapBlank, inked⟩
  · have inside := isAllBlank_append.mpr ⟨blank, textBlank⟩
    exact .ending (isAllBlank_append.mpr ⟨inside, afterBlank⟩) textBlank
  · have shape : before ++ text ++ after = (before ++ gap) ++ character :: (rest ++ after) := by
      rw [split]
      simp
    rw [shape, split]
    refine .ink (isAllBlank_append.mpr ⟨blank, gapBlank⟩) gapBlank ?_ inked
      (respaced_append_blank afterBlank rest)
    rcases beginsLine with empty | ends
    · rw [empty]
      rfl
    · rcases List.getLast?_eq_some_iff.mp ends with ⟨front, cut⟩
      rw [cut, List.append_assoc]
      exact opensLine_append_lineFeed ('\n' :: front) gap

/-! ## The lines of a respelled text -/

section

variable {text : Text}
  (breaks : ∀ character ∈ text, isLineBreak character = true → character = '\n')

include breaks

theorem linesFrom_withReturns (current : Text) :
    linesFrom current (withReturns text) = linesFrom current text := by
  unfold withReturns
  induction text generalizing current with
  | nil => rfl
  | cons head rest induction =>
      rcases List.forall_mem_cons.mp breaks with ⟨headBreaks, restBreaks⟩
      by_cases lineFeed : head = '\n'
      · have broken : linesFrom current ('\r' :: '\n' :: respelled ['\r'] [] rest) =
            current.reverse :: linesFrom [] (respelled ['\r'] [] rest) := by
          rw [linesFrom]
        rw [lineFeed, respelled_cons_lineFeed, linesFrom_break, ← induction restBreaks]
        exact broken
      · have unbroken : isLineBreak head = false :=
          Bool.eq_false_iff.mpr fun isBreak => lineFeed (headBreaks isBreak)
        rw [respelled_cons lineFeed, linesFrom_cons unbroken, linesFrom_cons unbroken,
          induction restBreaks]

/-- Every line of an indented text is a line of the text behind the indentation. -/
theorem foldl_linesFrom_indented {State : Type} {read : State → Text → State}
    (ignores : IgnoresBlanks read) {indent : Text}
    (tabsAndSpaces : indent.all IndentedHeader.isTabOrSpace = true) (current : Text)
    (state : State) :
    (linesFrom (current ++ indent.reverse) (respelled [] indent text)).foldl read state =
      ((linesFrom current text).map (indent ++ ·)).foldl read state := by
  have unbroken := unbroken_of_tabsAndSpaces tabsAndSpaces
  induction text generalizing current state with
  | nil =>
      have whole : (linesFrom (current ++ indent.reverse) []).foldl read state =
          read state (indent ++ current.reverse) := by
        rw [foldl_linesFrom_blank ignores rfl, List.reverse_append, List.reverse_reverse]
      refine whole.trans ?_
      cases current with
      | nil =>
          rw [List.reverse_nil, List.append_nil]
          exact ignores.blank state indent (isAllBlank_of_tabsAndSpaces tabsAndSpaces)
      | cons head tail => rfl
  | cons head rest induction =>
      rcases List.forall_mem_cons.mp breaks with ⟨headBreaks, restBreaks⟩
      by_cases lineFeed : head = '\n'
      · have later := induction restBreaks [] (read state (indent ++ current.reverse))
        rw [lineFeed, respelled_cons_lineFeed, List.nil_append, linesFrom_break, linesFrom_break,
          linesFrom_append unbroken, List.reverse_append, List.reverse_reverse, List.append_nil,
          List.map_cons, List.foldl_cons, List.foldl_cons]
        exact later
      · have whole : isLineBreak head = false :=
          Bool.eq_false_iff.mpr fun isBreak => lineFeed (headBreaks isBreak)
        rw [respelled_cons lineFeed, linesFrom_cons whole, linesFrom_cons whole]
        exact induction restBreaks (head :: current) state

theorem foldl_lines_indented {State : Type} {read : State → Text → State}
    (ignores : IgnoresBlanks read) {indent : Text}
    (tabsAndSpaces : indent.all IndentedHeader.isTabOrSpace = true) (state : State) :
    (lines (indentedBy indent text)).foldl read state =
      ((lines text).map (indent ++ ·)).foldl read state := by
  have started := linesFrom_append (unbroken_of_tabsAndSpaces tabsAndSpaces) []
    (respelled [] indent text)
  rw [List.append_nil] at started
  rw [lines, indentedBy, started]
  exact foldl_linesFrom_indented breaks ignores tabsAndSpaces [] state

end

end Text

end GrowthGauge
