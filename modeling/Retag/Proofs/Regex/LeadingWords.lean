import Retag.Proofs.Glob.Translation
import Retag.Proofs.Regex.Preference
import Retag.Proofs.Text.Cutting

/-!
# Searches for leading words

Words are looked for at the start of a text, with white space behind them, by a pattern in which
they are alternatives. Each of their characters is written so that it stands for itself. The pattern
is read as it is meant, and a search finds the first of the words that is there, with all white
space behind it.
-/

namespace Retag.Regex.Words

open Unicode Retag.Text Regex.Parser Regex.Pattern

/-! ## Leading words -/

/-- A text is a word, white space and what is left. -/
structure Leads (word text blanks rest : List Char) : Prop where
  whole : text = word ++ (blanks ++ rest)
  blanks_ne_nil : blanks ≠ []
  blank : ∀ c ∈ blanks, isBlank c = true
  ends : ∀ c ∈ rest.head?, ¬ isBlank c = true

/-- The text does not start with the word and white space. -/
def Misses (text : List Char) (word : String) : Prop :=
  ∀ blanks rest, ¬ Leads word.toList text blanks rest

/-! ## Words as patterns -/

/-- A pattern for a word and white space behind it. -/
def wordPattern (word : String) : String :=
  String.ofList (word.toList.flatMap Glob.quote) ++ "\\s+"

/-- A pattern for the first of some words at the start of a text. -/
def leadingPattern (words : List String) : String :=
  "^(?:" ++ String.intercalate "|" (words.map wordPattern) ++ ")"

/-- Several expressions as one. -/
def chain (op : Pattern → Pattern → Pattern) : List Pattern → Pattern
  | [] => .empty
  | [r] => r
  | r :: rs => op r (chain op rs)

/-- White space, as much as there is. -/
def blanksExpression : Pattern := .repeat (.char .space) 1 none true

def wordExpression (word : List Char) : Pattern :=
  word.foldr (fun c r => .seq (.char (.single c)) r) blanksExpression

/-- The words as alternatives. -/
def wordsExpression (words : List String) : Pattern :=
  chain .alt (words.map fun word => wordExpression word.toList)

/-- The words as alternatives at the start of the text. -/
def leadingExpression (words : List String) : Pattern :=
  .seq (.look .textStart) (wordsExpression words)

/-! ## Reading the patterns -/

/-- What is read of a character. -/
def character (c : Char) : Piece := .expr (.char (.single c)) 0

/-- What is read of a word, the white space first. -/
def piecesOf (word : List Char) : List Piece :=
  .expr blanksExpression 1 :: (word.map character).reverse

def wordPiece (word : List Char) : Piece := Piece.join .seq (piecesOf word)

/-- A word as it is written. -/
def spelled (word : List Char) : List Char := word.flatMap Glob.quote ++ ['\\', 's', '+']

variable {st : State} {fuel : Nat} {word text before after blanks rest : List Char}

theorem run_quotes (hflags : st.flags = {}) (word rest : List Char) :
    run (fuel + word.length) st (word.flatMap Glob.quote ++ rest)
      = run fuel { st with pieces := (word.map character).reverse ++ st.pieces } rest := by
  induction word generalizing st with
  | nil => rfl
  | cons c word ih =>
    have hchar : run (fuel + word.length + 1) st (Glob.quote c ++ (word.flatMap Glob.quote ++ rest))
        = run (fuel + word.length) (st.push (.char (.single c)))
          (word.flatMap Glob.quote ++ rest) := by
      rw [Glob.run_character (by rw [hflags]) (by rw [hflags]), hflags]
      rfl
    have hpushed : (st.push (.char (.single c))).flags = {} := hflags
    rw [List.flatMap_cons, List.append_assoc, List.length_cons, ← Nat.add_assoc, hchar, ih hpushed,
      List.map_cons, List.reverse_cons, List.append_assoc]
    rfl

theorem run_blanks (hflags : st.flags = {}) (hrest : rest.head? ≠ some '?') :
    run (fuel + 2) st ('\\' :: 's' :: '+' :: rest)
      = run fuel (st.push blanksExpression 1) rest := by
  have hspace : step st '\\' ('s' :: '+' :: rest) = some (st.push (.char .space), '+' :: rest) := by
    refine Glob.step_escape (a := .cls .space) ?_ rfl
    rw [hflags]
    rfl
  have hplus : step (st.push (.char .space)) '+' rest
      = some (st.push blanksExpression 1, rest) := by
    change State.repeatedThen _ 1 none rest = _
    rw [State.repeatedThen]
    · change some (st.push (.mkRepeat (.char .space) 1 none (true != st.flags.lazyFirst)) 1, rest)
        = _
      rw [hflags]
      rfl
    · rintro more rfl
      exact hrest rfl
  rw [Glob.run_unspaced (by rw [hflags]) hspace]
  exact Glob.run_unspaced (by rw [State.push, hflags]) hplus

theorem run_spelled (hflags : st.flags = {}) (hpieces : st.pieces = []) (word : List Char)
    (hrest : rest.head? ≠ some '?') :
    run (fuel + 2 + word.length) st (spelled word ++ rest)
      = run fuel { st with pieces := piecesOf word } rest := by
  have hread :
      ({ st with pieces := (word.map character).reverse ++ st.pieces } : State).flags = {} :=
    hflags
  rw [spelled, List.append_assoc, run_quotes hflags]
  refine (run_blanks hread hrest).trans ?_
  rw [State.push, hpieces, List.append_nil]
  rfl

/-- A word in front of others becomes a branch. -/
theorem run_branch (hflags : st.flags = {}) (hpieces : st.pieces = []) (word rest : List Char) :
    run (fuel + 1 + 2 + word.length) st (spelled word ++ '|' :: rest)
      = run fuel { st with branches := wordPiece word :: st.branches, pieces := [] } rest := by
  rw [run_spelled hflags hpieces word (by simp)]
  exact Glob.run_unspaced (by rw [hflags]) rfl

theorem length_spelled (word : List Char) : word.length + 3 ≤ (spelled word).length := by
  induction word with
  | nil => exact Nat.le_refl _
  | cons c word ih =>
    have hquote : 1 ≤ (Glob.quote c).length := (Glob.WritesOne.one c).length_pos
    rw [spelled, List.flatMap_cons, List.append_assoc, ← spelled, List.length_append,
      List.length_cons]
    omega

/-- The words in front become branches, and the last one is still open. -/
theorem run_words (hflags : st.flags = {}) (hpieces : st.pieces = []) (front : List (List Char))
    (last : List Char) (hrest : rest.head? ≠ some '?') :
    ∃ k ≤ ((front.map spelled).flatMap (· ++ ['|']) ++ spelled last).length, ∀ fuel,
      run (fuel + k) st ((front.map spelled).flatMap (· ++ ['|']) ++ spelled last ++ rest)
        = run fuel { st with
          branches := (front.map wordPiece).reverse ++ st.branches
          pieces := piecesOf last } rest := by
  induction front generalizing st with
  | nil =>
    refine ⟨2 + last.length, ?_, fun fuel => ?_⟩
    · have hlast := length_spelled last
      simp only [List.map_nil, List.flatMap_nil, List.nil_append]
      omega
    · rw [← Nat.add_assoc]
      exact run_spelled hflags hpieces last hrest
  | cons word front ih =>
    obtain ⟨k, hk, hrun⟩ := @ih
      { st with branches := wordPiece word :: st.branches, pieces := [] } hflags rfl
    refine ⟨k + (1 + 2 + word.length), ?_, fun fuel => ?_⟩
    · have hword := length_spelled word
      simp only [List.map_cons, List.flatMap_cons, List.length_append,
        List.length_singleton] at hk ⊢
      omega
    · simp only [List.map_cons, List.flatMap_cons, List.append_assoc, List.cons_append,
        List.nil_append, List.reverse_cons, ← Nat.add_assoc] at hrun ⊢
      rw [run_branch hflags hpieces, hrun]

/-! ## Whole patterns -/

theorem chain_concat (op : Pattern → Pattern → Pattern) (front : List Pattern) (last : Pattern) :
    chain op (front ++ [last]) = front.foldr op last := by
  induction front with
  | nil => rfl
  | cons r front ih =>
    obtain ⟨s, more, hmore⟩ := List.exists_cons_of_ne_nil
      (List.append_ne_nil_of_right_ne_nil front (List.cons_ne_nil last []))
    rw [List.foldr_cons, ← ih, List.cons_append, hmore]
    rfl

/-- Pieces read one after the other are chained from the first on. -/
theorem pattern_join (op : Pattern → Pattern → Pattern) (front : List Piece) (last : Piece) :
    (Piece.join op (last :: front.reverse)).pattern
      = chain op (front.map Piece.pattern ++ [last.pattern]) := by
  rw [chain_concat]
  by_cases hfront : front.reverse = []
  · rw [List.reverse_eq_nil_iff.mp hfront]
    rfl
  · rw [Glob.join_cons hfront, Piece.pattern, List.foldl_reverse, List.foldr_map]

theorem depth_join_le (op : Pattern → Pattern → Pattern) {ps : List Piece} {bound : Nat}
    (h : ∀ p ∈ ps, p.depth ≤ bound) : (Piece.join op ps).depth ≤ bound + 1 := by
  rcases ps with - | ⟨p, - | ⟨q, ps⟩⟩
  · exact Nat.zero_le _
  · exact Nat.le_succ_of_le (h p List.mem_cons_self)
  · rw [Glob.join_cons (List.cons_ne_nil _ _)]
    exact Nat.succ_le_succ (Glob.foldl_max_le h (Nat.zero_le _))

theorem pattern_wordPiece (word : List Char) : (wordPiece word).pattern = wordExpression word := by
  rw [wordPiece, piecesOf, pattern_join, chain_concat, List.map_map, List.foldr_map]
  rfl

theorem depth_wordPiece (word : List Char) : (wordPiece word).depth ≤ 2 := by
  refine depth_join_le _ fun p hp => ?_
  rcases List.mem_cons.mp hp with rfl | hp
  · exact Nat.le_refl 1
  · obtain ⟨c, -, rfl⟩ := List.mem_map.mp (List.mem_reverse.mp hp)
    exact Nat.zero_le 1

/-- What is read of some words. -/
def wordsPiece (front : List (List Char)) (last : List Char) : Piece :=
  Piece.join .alt (wordPiece last :: (front.map wordPiece).reverse)

theorem pattern_wordsPiece (front : List (List Char)) (last : List Char) :
    (wordsPiece front last).pattern = chain .alt ((front ++ [last]).map wordExpression) := by
  have hpatterns : Piece.pattern ∘ wordPiece = wordExpression := funext pattern_wordPiece
  rw [wordsPiece, pattern_join, List.map_map, hpatterns, pattern_wordPiece, List.map_append]
  rfl

theorem depth_wordsPiece (front : List (List Char)) (last : List Char) :
    (wordsPiece front last).depth ≤ 3 := by
  refine depth_join_le _ fun p hp => ?_
  rw [← List.map_reverse, ← List.map_cons] at hp
  obtain ⟨word, -, rfl⟩ := List.mem_map.mp hp
  exact depth_wordPiece word

/-- The state in the group of the words. -/
def start : State := { groups := [⟨none, {}, [], [.expr (.look .textStart) 0]⟩] }

theorem run_start (fuel : Nat) (text : List Char) :
    run (fuel + 2) {} ("^(?:".toList ++ text) = run fuel start text := rfl

/-- The state behind the words, with their group still open. -/
def opened (front : List (List Char)) (last : List Char) : State :=
  { start with
    branches := (front.map wordPiece).reverse ++ start.branches
    pieces := piecesOf last }

theorem body_opened (front : List (List Char)) (last : List Char) :
    (opened front last).body = wordsPiece front last := by
  have hbranches : (opened front last).branches = (front.map wordPiece).reverse :=
    List.append_nil _
  rw [State.body, hbranches, wordsPiece]
  rcases (front.map wordPiece).reverse with - | ⟨p, ps⟩
  · rfl
  · rfl

/-- What is read of a whole pattern: the group of the words behind the start of the text. -/
def finished (front : List (List Char)) (last : List Char) : State :=
  { pieces := [.expr (wordsPiece front last).pattern ((wordsPiece front last).depth + 1),
    .expr (.look .textStart) 0] }

theorem run_opened (fuel : Nat) (front : List (List Char)) (last : List Char) :
    run (fuel + 2) (opened front last) [')'] = some (finished front last) := by
  have hclose : step (opened front last) ')' [] = some ({
      pieces := [.expr (opened front last).body.pattern ((opened front last).body.depth + 1),
        .expr (.look .textStart) 0] }, []) := rfl
  rw [body_opened] at hclose
  exact Glob.run_unspaced rfl hclose

theorem toList_wordPattern (word : String) : (wordPattern word).toList = spelled word.toList := by
  rw [wordPattern, String.toList_append, String.toList_ofList]
  rfl

theorem intercalate_concat (sep : List Char) (front : List (List Char)) (last : List Char) :
    sep.intercalate (front ++ [last]) = front.flatMap (· ++ sep) ++ last := by
  induction front with
  | nil => exact List.append_nil last
  | cons word front ih =>
    obtain ⟨next, more, hmore⟩ := List.exists_cons_of_ne_nil
      (List.append_ne_nil_of_right_ne_nil front (List.cons_ne_nil last []))
    rw [List.cons_append, hmore, List.intercalate_cons_cons, ← hmore, ih, List.flatMap_cons]
    simp only [List.append_assoc]

theorem toList_leadingPattern (front : List String) (last : String) :
    (leadingPattern (front ++ [last])).toList = "^(?:".toList
      ++ (((front.map String.toList).map spelled).flatMap (· ++ ['|']) ++ spelled last.toList
        ++ [')']) := by
  have hwords : ((front ++ [last]).map wordPattern).map String.toList
      = (front.map String.toList).map spelled ++ [spelled last.toList] := by
    simp only [List.map_append, List.map_map, List.map_singleton, toList_wordPattern,
      Function.comp_def]
  rw [leadingPattern, String.toList_append, String.toList_append, String.toList_intercalate, hwords]
  have hbar : "|".toList = ['|'] := rfl
  have hclose : ")".toList = [')'] := rfl
  rw [hbar, hclose, intercalate_concat, List.append_assoc]

theorem run_leadingPattern (front : List String) (last : String) :
    run ((leadingPattern (front ++ [last])).toList.length + 1) {}
        (leadingPattern (front ++ [last])).toList
      = some (finished (front.map String.toList) last.toList) := by
  obtain ⟨k, hk, hrun⟩ := @run_words start [')'] rfl rfl (front.map String.toList) last.toList
    (by simp)
  rw [toList_leadingPattern]
  generalize ((front.map String.toList).map spelled).flatMap (· ++ ['|']) ++ spelled last.toList
    = text at hk hrun ⊢
  obtain ⟨more, hmore⟩ : ∃ more,
      ("^(?:".toList ++ (text ++ [')'])).length + 1 = more + 2 + k + 2 := by
    have hstart : "^(?:".toList.length = 4 := rfl
    refine ⟨text.length + 2 - k, ?_⟩
    rw [List.length_append, List.length_append, List.length_singleton, hstart]
    omega
  rw [hmore, run_start, hrun]
  exact run_opened more _ _

/-- The pattern is refused if it is too large. Else it denotes the words as alternatives behind the
start of the text, and each character of a word stands for itself. -/
theorem parse_leadingPattern {words : List String} (hne : words ≠ []) :
    Pattern.parse? (leadingPattern words)
      = if (leadingExpression words).weight ≤ maxWeight then some (leadingExpression words, [])
        else none := by
  obtain ⟨front, last, rfl⟩ : ∃ front last, words = front ++ [last] :=
    ⟨_, _, (List.dropLast_append_getLast hne).symm⟩
  have hpattern : (finished (front.map String.toList) last.toList).body.pattern
      = leadingExpression (front ++ [last]) := by
    have hwords := pattern_wordsPiece (front.map String.toList) last.toList
    have hbody : (finished (front.map String.toList) last.toList).body.pattern
        = .seq (.look .textStart) (wordsPiece (front.map String.toList) last.toList).pattern := rfl
    rw [hbody, hwords, leadingExpression, ← List.map_singleton, ← List.map_append, List.map_map]
    rfl
  have hdepth : (finished (front.map String.toList) last.toList).body.depth ≤ maxDepth := by
    have hwords := depth_wordsPiece (front.map String.toList) last.toList
    have hbody : (finished (front.map String.toList) last.toList).body.depth ≤ 4 + 1 := by
      change (Piece.join .seq (finished _ _).pieces).depth ≤ 4 + 1
      refine depth_join_le _ fun p hp => ?_
      simp only [finished, List.mem_cons, List.not_mem_nil, or_false] at hp
      rcases hp with rfl | rfl
      · exact Nat.succ_le_succ hwords
      · exact Nat.zero_le 4
    exact hbody.trans (by decide)
  have hgroups : (finished (front.map String.toList) last.toList).groups = [] := rfl
  have hnames : (finished (front.map String.toList) last.toList).names = [] := rfl
  rw [Pattern.parse?, run_leadingPattern]
  by_cases hweight : (leadingExpression (front ++ [last])).weight ≤ maxWeight <;>
    simp [hpattern, hweight, hdepth, hgroups, hnames]

/-! ## What a search for the words finds -/

/-- A word that is there is taken with all white space behind it. -/
theorem Leads.tries (h : Leads word after blanks rest) :
    ∃ others, Tries (wordExpression word) before after ((word ++ blanks) :: others) := by
  obtain ⟨rfl, hne, hblank, hrest⟩ := h
  induction word generalizing before with
  | nil => exact tries_run hblank hrest (List.length_pos_of_ne_nil hne)
  | cons c word ih =>
    obtain ⟨others, hothers⟩ := @ih (before ++ [c])
    have hchar : Tries (.char (.single c)) before ([c] ++ (word ++ (blanks ++ rest))) [[c]] :=
      .char (beq_self_eq_true c)
    exact ⟨_, .seq_of_only hchar hothers⟩

/-- A word that is not there is not taken. -/
theorem tries_missed (h : ∀ blanks rest, ¬ Leads word after blanks rest) :
    Tries (wordExpression word) before after [] := by
  induction word generalizing before after with
  | nil =>
    obtain ⟨run, rest, rfl, hrun, hrest⟩ := exists_run isBlank after
    obtain rfl : run = [] := by
      by_contra hne
      exact h run rest ⟨rfl, hne, hrun, hrest⟩
    exact tries_no_round hrest true
  | cons c word ih =>
    by_cases hfirst : after.head? = some c
    · obtain ⟨after, rfl⟩ := List.head?_eq_some_iff.mp hfirst
      have hmissing : ∀ blanks rest, ¬ Leads word after blanks rest := fun blanks rest hleads =>
        h blanks rest ⟨congrArg (c :: ·) hleads.whole, hleads.blanks_ne_nil, hleads.blank,
          hleads.ends⟩
      have hchar : Tries (.char (.single c)) before ([c] ++ after) [[c]] :=
        .char (beq_self_eq_true c)
      exact .seq_of_only hchar (ih hmissing)
    · refine .seq_of_none (.noChar fun d hd hmem => hfirst ?_)
      rw [← beq_iff_eq.mp hmem]
      exact hd

theorem exists_tries_word (before after word : List Char) :
    ∃ ways, Tries (wordExpression word) before after ways := by
  by_cases hleads : ∃ blanks rest, Leads word after blanks rest
  · obtain ⟨blanks, rest, h⟩ := hleads
    obtain ⟨others, hothers⟩ := h.tries
    exact ⟨_, hothers⟩
  · exact ⟨[], tries_missed fun blanks rest h => hleads ⟨blanks, rest, h⟩⟩

theorem wordsExpression_cons (word : String) {words : List String} (hne : words ≠ []) :
    wordsExpression (word :: words)
      = .alt (wordExpression word.toList) (wordsExpression words) := by
  obtain ⟨next, words, rfl⟩ := List.exists_cons_of_ne_nil hne
  rfl

theorem exists_tries_words (before after : List Char) (words : List String) :
    ∃ ways, Tries (wordsExpression words) before after ways := by
  induction words with
  | nil => exact ⟨_, .empty⟩
  | cons word words ih =>
    obtain ⟨lefts, hlefts⟩ := exists_tries_word before after word.toList
    obtain ⟨rights, hrights⟩ := ih
    by_cases hne : words = []
    · subst hne
      exact ⟨_, hlefts⟩
    · rw [wordsExpression_cons word hne]
      exact ⟨_, hlefts.alt hrights⟩

/-- Of several words that are there the first is preferred. -/
theorem tries_words {word : String} {front back : List String}
    (hfront : ∀ other ∈ front, Misses after other) (h : Leads word.toList after blanks rest) :
    ∃ others, Tries (wordsExpression (front ++ word :: back)) before after
      ((word.toList ++ blanks) :: others) := by
  induction front with
  | nil =>
    obtain ⟨others, hothers⟩ : ∃ others, Tries (wordExpression word.toList) before after
        ((word.toList ++ blanks) :: others) := h.tries
    obtain ⟨rights, hrights⟩ := exists_tries_words before after back
    by_cases hne : back = []
    · subst hne
      exact ⟨_, hothers⟩
    · rw [List.nil_append, wordsExpression_cons word hne]
      exact ⟨_, hothers.alt hrights⟩
  | cons other front ih =>
    obtain ⟨hother, hfront⟩ := List.forall_mem_cons.mp hfront
    obtain ⟨others, hothers⟩ := ih hfront
    rw [List.cons_append, wordsExpression_cons other
      (List.append_ne_nil_of_right_ne_nil front (List.cons_ne_nil word back))]
    exact ⟨_, (tries_missed hother).alt hothers⟩

theorem tries_words_missed {words : List String} (hne : words ≠ [])
    (h : ∀ word ∈ words, Misses after word) : Tries (wordsExpression words) before after [] := by
  induction words with
  | nil => exact absurd rfl hne
  | cons word words ih =>
    obtain ⟨hword, hwords⟩ := List.forall_mem_cons.mp h
    by_cases hlast : words = []
    · subst hlast
      exact tries_missed hword
    · rw [wordsExpression_cons word hlast]
      exact (tries_missed hword).alt (ih hlast hwords)

/-- The words are looked for at the start of the text only. -/
theorem tries_leading_start {words : List String} {ways : List (List Char)}
    (h : Tries (wordsExpression words) [] after ways) :
    Tries (leadingExpression words) [] after ways := by
  have hstart : Tries (.look .textStart) [] ([] ++ after) [[]] := .look rfl
  have hseq := hstart.seq_of_only h
  rwa [List.map_congr_left fun _ _ => List.nil_append _, List.map_id'] at hseq

theorem tries_leading_later {words : List String} (hbefore : before ≠ []) :
    Tries (leadingExpression words) before after [] := by
  refine .seq_of_none (.noLook ?_)
  obtain ⟨c, hc⟩ : ∃ c, before.getLast? = some c := ⟨_, List.getLast?_eq_some_getLast hbefore⟩
  rw [hc]
  exact Bool.false_ne_true

theorem found_leading {text : List Char} {word : String} {front back : List String}
    (hfront : ∀ other ∈ front, Misses text other) (h : Leads word.toList text blanks rest) :
    Found (leadingExpression (front ++ word :: back)) text [] (word.toList ++ blanks) rest := by
  have hwhole : text = (word.toList ++ blanks) ++ rest := by
    rw [h.whole, List.append_assoc]
  obtain ⟨others, hothers⟩ : ∃ others, Tries (wordsExpression (front ++ word :: back)) [] text
      ((word.toList ++ blanks) :: others) := tries_words hfront h
  exact ⟨hwhole, fun _ _ _ hlt => absurd hlt (Nat.not_lt_zero _), others,
    hwhole ▸ tries_leading_start hothers⟩

theorem not_found_leading {text taken : List Char} {words : List String} (hne : words ≠ [])
    (h : ∀ word ∈ words, Misses text word) :
    ¬ Found (leadingExpression words) text before taken after := by
  intro hfound
  obtain ⟨others, hways⟩ := hfound.preferred
  by_cases hbefore : before = []
  · subst hbefore
    have hwhole : taken ++ after = text := hfound.whole.symm
    rw [hwhole] at hways
    exact List.cons_ne_nil _ _ ((tries_leading_start (tries_words_missed hne h)).unique hways)
  · exact List.cons_ne_nil _ _ ((tries_leading_later hbefore).unique hways)

end Retag.Regex.Words
