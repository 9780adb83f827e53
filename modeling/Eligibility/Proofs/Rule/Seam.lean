import Eligibility.Proofs.Rule.Script
import Eligibility.Rule.Combine

/-!
# Seams between rule texts

Two rule texts are joined by a connective with blank text on its two sides.
Nothing leaks through such a seam: the segments of the joined text are those of
the first one, the connective, and those of the second one.  So the joined text
compiles exactly if both texts do.  It is the first rule, to which the
conditions of the second one are joined one after another, and not the second
rule as a whole.
-/

namespace Eligibility

open Eligibility.Text

/-- The blank text on the two sides of a connective between two rule texts. -/
structure Seam where
  before : String
  after : String
  before_isGap : IsGap before.toList
  after_isGap : IsGap after.toList
  before_nonempty : before ≠ ""
  after_nonempty : after ≠ ""

namespace Seam

/-- Two rule texts with a connective between them. -/
def join (seam : Seam) (connective : Connective) (first second : String) : String :=
  first ++ seam.before ++ connective.word ++ seam.after ++ second

/-- A rule text and further ones behind it, each behind a seam with the same
connective. -/
def joinAll (connective : Connective) (first : String) (others : List (Seam × String)) : String :=
  others.foldl (fun text other => other.1.join connective text other.2) first

end Seam

/-! ## Segments at a seam -/

namespace Segment

theorem ofWords_singleton (letters gap other : List Char) :
    ofWords [⟨letters, gap⟩] = ofWords [⟨letters, other⟩] := by
  cases read : Connective.ofString? (String.ofList letters) <;>
    simp [ofWords, prependWord, read]

/-- Another gap behind the last word gives the same segments. -/
theorem ofWords_finish_nil (gap : List Char) (words : List Word) :
    ofWords (Word.finish [] gap words) = ofWords words := by
  induction words using Word.finish.induct with
  | case1 => rfl
  | case2 word =>
      rw [Word.finish, List.append_nil]
      exact ofWords_singleton word.letters gap word.gap
  | case3 word next words ih => rw [Word.finish, ofWords_cons, ih, ofWords_cons word]

/-- Words behind a text and a gap form segments of their own, if those start
apart. -/
theorem ofText_append_written {text gap : List Char} {behind : List Word} (blank : IsGap gap)
    (nonempty : gap ≠ []) (behindApart : Word.Apart behind)
    (startsApart : StartsApart (ofWords behind)) :
    ofText (text ++ gap ++ Word.written behind) = ofText text ++ ofWords behind := by
  rcases nonempty_wording text with ⟨front⟩
  rw [ofText_eq_ofWords front]
  by_cases wordless : front.words = []
  · have text_eq : text ++ gap ++ Word.written behind =
        front.lead ++ gap ++ Word.written behind := by
      conv_lhs => rw [front.text_eq, wordless, Word.written_nil, List.append_nil]
    let whole : Wording (text ++ gap ++ Word.written behind) :=
      ⟨front.lead ++ gap, behind, isGap_append.mpr ⟨front.lead_isGap, blank⟩, behindApart, text_eq⟩
    rw [ofText_eq_ofWords whole, wordless, ofWords_nil, List.nil_append]
  · rcases Word.exists_written_eq_span_append front.apart with ⟨rest, restBlank, written_eq⟩
    have text_eq : text ++ gap ++ Word.written behind =
        front.lead ++ Word.written (Word.finish [] (rest ++ gap) front.words ++ behind) := by
      rw [Word.written_append, Word.written_finish wordless]
      conv_lhs => rw [front.text_eq, written_eq]
      simp only [List.append_assoc, List.nil_append]
    have apart : Word.Apart (Word.finish [] (rest ++ gap) front.words ++ behind) :=
      Word.apart_finish_append front.apart (List.forall_mem_nil _)
        (isGap_append.mpr ⟨restBlank, blank⟩)
        (fun _ => List.append_ne_nil_of_right_ne_nil rest nonempty) behindApart
    let whole : Wording (text ++ gap ++ Word.written behind) :=
      ⟨front.lead, _, front.lead_isGap, apart, text_eq⟩
    rw [ofText_eq_ofWords whole, ofWords_append startsApart, ofWords_finish_nil]

/-- The segments of two texts with a connective between them are those of the
texts and the connective. -/
theorem ofText_seam {first second before after : List Char} (connective : Connective)
    (before_isGap : IsGap before) (after_isGap : IsGap after) (before_nonempty : before ≠ [])
    (after_nonempty : after ≠ []) :
    ofText (first ++ before ++ connective.word.toList ++ after ++ second) =
      ofText first ++ .connective connective :: ofText second := by
  rcases nonempty_wording second with ⟨back⟩
  let behind : List Word := ⟨connective.word.toList, after ++ back.lead⟩ :: back.words
  have behindApart : Word.Apart behind :=
    Word.apart_cons.mpr ⟨connective.isWord_word, isGap_append.mpr ⟨after_isGap, back.lead_isGap⟩,
      fun _ => List.append_ne_nil_of_left_ne_nil after_nonempty _, back.apart⟩
  have behindSegments : ofWords behind = .connective connective :: ofText second := by
    rw [ofWords_connective_cons, ofText_eq_ofWords back]
  have startsApart : StartsApart (ofWords behind) := by
    rw [behindSegments]
    exact trivial
  have text_eq : first ++ before ++ connective.word.toList ++ after ++ second =
      first ++ before ++ Word.written behind := by
    conv_lhs => rw [back.text_eq]
    simp only [behind, Word.written_cons, List.append_assoc]
  rw [text_eq, ofText_append_written before_isGap before_nonempty behindApart startsApart,
    behindSegments]

end Segment

/-! ## Sentences at a seam -/

namespace Sentence

/-- Two sentences with a connective between them as one sentence. -/
def append (connective : Connective) (sentence next : Sentence) : Sentence where
  first := sentence.first
  others := sentence.others ++ (connective, next.first) :: next.others

/-- Segments with a connective among them spell a sentence exactly if those on
its two sides each spell one. -/
theorem segments_eq_append_iff {sentence : Sentence} {connective : Connective}
    {before after : List Segment} :
    before ++ .connective connective :: after = sentence.segments ↔
      ∃ front back : Sentence, before = front.segments ∧ after = back.segments ∧
        front.append connective back = sentence := by
  constructor
  · intro spelled
    rcases sentence with ⟨text, others⟩
    induction others generalizing before text with
    | nil =>
        rcases before with _ | ⟨segment, _ | ⟨next, before⟩⟩
        all_goals cases spelled
    | cons other others ih =>
        rcases other with ⟨joining, later⟩
        rcases before with _ | ⟨segment, _ | ⟨next, before⟩⟩
        · cases spelled
        · cases spelled
          exact ⟨⟨text, []⟩, ⟨later, others⟩, rfl, rfl, rfl⟩
        · rw [segments, laterSegments_cons, List.cons_append, List.cons_append,
            List.cons.injEq, List.cons.injEq] at spelled
          rcases spelled with ⟨rfl, rfl, behind⟩
          rcases ih later behind with ⟨front, back, rfl, after_eq, whole_eq⟩
          refine ⟨⟨text, (joining, front.first) :: front.others⟩, back, rfl, after_eq, ?_⟩
          cases whole_eq
          rfl
  · rintro ⟨front, back, rfl, rfl, rfl⟩
    simp [segments, append, laterSegments]

theorem compares_append_iff {connective : Connective} {sentence next : Sentence} :
    (sentence.append connective next).Compares ↔ sentence.Compares ∧ next.Compares := by
  have conditions_eq : (sentence.append connective next).conditions =
      sentence.conditions ++ next.conditions := by
    simp [conditions, append]
  rw [Compares, conditions_eq, List.forall_mem_append]
  rfl

end Sentence

namespace Rule

/-- A rule joined on the right with conditions, each by the connective in front
of it. -/
def joinLeaves (rule : Rule) (others : List (String × String)) : Rule :=
  others.foldl (fun rule other => .join other.1 rule (.leaf other.2)) rule

/-- A rule that goes on with a connective and with the conditions and connectives
of another rule, in their order. -/
def goOn (rule : Rule) (connective : String) (next : Rule) : Rule :=
  rule.joinLeaves ((connective :: next.connectives).zip next.leaves)

theorem leaves_ne_nil (rule : Rule) : rule.leaves ≠ [] := by
  induction rule with
  | leaf condition => exact List.cons_ne_nil condition []
  | join connective left right leftNonempty _ =>
      exact List.append_ne_nil_of_left_ne_nil leftNonempty _

theorem length_leaves (rule : Rule) : rule.leaves.length = rule.connectives.length + 1 := by
  induction rule with
  | leaf condition => rfl
  | join connective left right leftLength rightLength =>
      simp only [leaves, connectives, List.length_append, List.length_cons, leftLength, rightLength]
      omega

theorem leaves_joinLeaves (rule : Rule) (others : List (String × String)) :
    (rule.joinLeaves others).leaves = rule.leaves ++ others.map Prod.snd := by
  induction others generalizing rule with
  | nil => simp [joinLeaves]
  | cons other others ih =>
      change ((join other.1 rule (leaf other.2)).joinLeaves others).leaves = _
      rw [ih]
      simp [leaves]

theorem leaves_goOn (rule next : Rule) (connective : String) :
    (rule.goOn connective next).leaves = rule.leaves ++ next.leaves := by
  rw [goOn, leaves_joinLeaves, List.map_snd_zip]
  rw [length_leaves, List.length_cons]

theorem exists_joinLeaves_eq_join (rule : Rule) {others : List (String × String)}
    (nonempty : others ≠ []) :
    ∃ connective left condition,
      rule.joinLeaves others = .join connective left (.leaf condition) := by
  rcases List.eq_nil_or_concat' others with rfl | ⟨before, last, rfl⟩
  · contradiction
  · exact ⟨last.1, rule.joinLeaves before, last.2, by rw [joinLeaves, List.foldl_append]; rfl⟩

/-- To go on with a rule is to join it exactly if it is a single condition. -/
theorem goOn_eq_join_iff {rule next : Rule} {connective : String} :
    rule.goOn connective next = .join connective rule next ↔ next.kind = .operand := by
  constructor
  · intro same
    have following : (connective :: next.connectives).zip next.leaves ≠ [] := by
      rcases List.exists_cons_of_ne_nil next.leaves_ne_nil with ⟨first, later, leaves_eq⟩
      rw [leaves_eq]
      exact List.cons_ne_nil _ _
    rcases exists_joinLeaves_eq_join rule following with ⟨_, _, condition, joined⟩
    rw [← goOn, same] at joined
    cases joined
    rfl
  · intro single
    cases next with
    | leaf condition => rfl
    | join joining left right => cases single

end Rule

namespace Sentence

/-- The rule of two joined sentences is that of the first one, which goes on with
that of the second one. -/
theorem rule_append (connective : Connective) (sentence next : Sentence) :
    (sentence.append connective next).rule =
      sentence.rule.goOn connective.word next.rule := by
  have following : (connective.word :: next.rule.connectives).zip next.rule.leaves =
      ((connective, next.first) :: next.others).map
        fun other => (other.1.word, String.ofList other.2) := by
    rw [rule, connectives_foldl_joinLeaf, leaves_foldl_joinLeaf]
    simp [Rule.connectives, Rule.leaves, List.zip_map']
  rw [Rule.goOn, following, Rule.joinLeaves, List.foldl_map, rule, append, List.foldl_append]
  rfl

end Sentence

/-! ## Compiling at a seam -/

theorem Seam.ofText_join (seam : Seam) (connective : Connective) (first second : String) :
    Segment.ofText (seam.join connective first second).toList =
      Segment.ofText first.toList ++ .connective connective :: Segment.ofText second.toList := by
  have before_nonempty : seam.before.toList ≠ [] := fun empty =>
    seam.before_nonempty (String.toList_eq_nil_iff.mp empty)
  have after_nonempty : seam.after.toList ≠ [] := fun empty =>
    seam.after_nonempty (String.toList_eq_nil_iff.mp empty)
  simp only [join, String.toList_append]
  exact Segment.ofText_seam connective seam.before_isGap seam.after_isGap before_nonempty
    after_nonempty

namespace Rule

variable {seam : Seam} {connective : Connective}

/-- A joined text compiles exactly if both texts do, and then to the rule of the
first one, which goes on with that of the second one. -/
theorem compile_join_eq_ok_iff {first second : String} {rule : Rule} :
    compile (seam.join connective first second) = .ok rule ↔
      ∃ left right, compile first = .ok left ∧ compile second = .ok right ∧
        left.goOn connective.word right = rule := by
  rw [compile_eq_ok_iff_segments, Seam.ofText_join]
  constructor
  · rintro ⟨sentence, spelled, compares, rfl⟩
    rcases Sentence.segments_eq_append_iff.mp spelled with ⟨front, back, front_eq, back_eq, rfl⟩
    rcases Sentence.compares_append_iff.mp compares with ⟨frontCompares, backCompares⟩
    exact ⟨front.rule, back.rule,
      compile_eq_ok_iff_segments.mpr ⟨front, front_eq, frontCompares, rfl⟩,
      compile_eq_ok_iff_segments.mpr ⟨back, back_eq, backCompares, rfl⟩,
      (Sentence.rule_append connective front back).symm⟩
  · rintro ⟨left, right, leftCompiled, rightCompiled, rfl⟩
    rcases compile_eq_ok_iff_segments.mp leftCompiled with ⟨front, front_eq, frontCompares, rfl⟩
    rcases compile_eq_ok_iff_segments.mp rightCompiled with ⟨back, back_eq, backCompares, rfl⟩
    exact ⟨front.append connective back,
      Sentence.segments_eq_append_iff.mpr ⟨front, back, front_eq, back_eq, rfl⟩,
      Sentence.compares_append_iff.mpr ⟨frontCompares, backCompares⟩,
      Sentence.rule_append connective front back⟩

/-- One more text that is a single condition is joined as one more rule. -/
theorem compile_join_of_leaf {first second condition : String} {left : Rule}
    (firstCompiled : compile first = .ok left)
    (secondCompiled : compile second = .ok (.leaf condition)) :
    compile (seam.join connective first second) =
      .ok (.join connective.word left (.leaf condition)) :=
  compile_join_eq_ok_iff.mpr ⟨left, _, firstCompiled, secondCompiled, rfl⟩

/-- Texts of which all but the first one are single conditions are compiled
together as they are compiled apart and combined. -/
theorem compile_joinAll {first : String} {others : List (Seam × String)} {left : Rule}
    {later : List Rule} (firstCompiled : compile first = .ok left)
    (laterCompiled : (others.map Prod.snd).map compile = later.map .ok)
    (single : ∀ rule ∈ later, rule.kind = .operand) :
    compile (Seam.joinAll connective first others) =
      combineAll connective.word (left :: later) := by
  induction others generalizing first left later with
  | nil =>
      have none : later = [] := List.map_eq_nil_iff.mp laterCompiled.symm
      rw [none, combineAll_singleton]
      exact firstCompiled
  | cons other others ih =>
      cases later with
      | nil => cases laterCompiled
      | cons rule later =>
          rcases List.cons.inj laterCompiled with ⟨ruleCompiled, restCompiled⟩
          rcases List.forall_mem_cons.mp single with ⟨ruleSingle, restSingle⟩
          cases rule with
          | leaf condition =>
              change
                compile (Seam.joinAll connective (other.1.join connective first other.2) others) =
                  combineAll connective.word
                    (.join connective.word left (.leaf condition) :: later)
              exact ih (compile_join_of_leaf firstCompiled ruleCompiled) restCompiled restSingle
          | join joining left right => cases ruleSingle

/-- Nothing behind a text makes it compile. -/
theorem exists_compile_of_joinAll {first : String} {others : List (Seam × String)} {rule : Rule}
    (compiled : compile (Seam.joinAll connective first others) = .ok rule) :
    ∃ left, compile first = .ok left := by
  induction others generalizing first with
  | nil => exact ⟨rule, compiled⟩
  | cons other others ih =>
      rcases ih compiled with ⟨joined, joinedCompiled⟩
      rcases compile_join_eq_ok_iff.mp joinedCompiled with ⟨left, -, leftCompiled, -⟩
      exact ⟨left, leftCompiled⟩

theorem exists_compiled_of_single {others : List (Seam × String)}
    (single : ∀ other ∈ others, ∃ condition, compile other.2 = .ok (.leaf condition)) :
    ∃ later : List Rule, (others.map Prod.snd).map compile = later.map .ok ∧
      ∀ rule ∈ later, rule.kind = .operand := by
  induction others with
  | nil => exact ⟨[], rfl, List.forall_mem_nil _⟩
  | cons other others ih =>
      rcases List.forall_mem_cons.mp single with ⟨⟨condition, compiled⟩, restSingle⟩
      rcases ih restSingle with ⟨later, laterCompiled, laterSingle⟩
      refine ⟨.leaf condition :: later, ?_, List.forall_mem_cons.mpr ⟨rfl, laterSingle⟩⟩
      rw [List.map_cons, List.map_cons, compiled, laterCompiled, List.map_cons]

/-- Texts of which all but the first one are single conditions compile together
exactly if they compile apart, and then to the rules combined. -/
theorem compile_joinAll_eq_ok_iff {first : String} {others : List (Seam × String)} {rule : Rule}
    (single : ∀ other ∈ others, ∃ condition, compile other.2 = .ok (.leaf condition)) :
    compile (Seam.joinAll connective first others) = .ok rule ↔
      ∃ rules : List Rule, (first :: others.map Prod.snd).map compile = rules.map .ok ∧
        combineAll connective.word rules = .ok rule := by
  rcases exists_compiled_of_single single with ⟨later, laterCompiled, laterSingle⟩
  constructor
  · intro compiled
    rcases exists_compile_of_joinAll compiled with ⟨left, leftCompiled⟩
    refine ⟨left :: later, ?_, ?_⟩
    · rw [List.map_cons, leftCompiled, laterCompiled, List.map_cons]
    · rw [← compile_joinAll leftCompiled laterCompiled laterSingle]
      exact compiled
  · rintro ⟨rules, rulesCompiled, combined⟩
    cases rules with
    | nil => cases combined
    | cons left others =>
        rcases List.cons.inj rulesCompiled with ⟨leftCompiled, othersCompiled⟩
        have same : others = later :=
          List.map_injective_iff.mpr (fun _ _ => Except.ok.inj)
            (othersCompiled.symm.trans laterCompiled)
        rw [compile_joinAll leftCompiled laterCompiled laterSingle, ← same]
        exact combined

/-- Compiling is compositional.  A joined text compiles exactly if both texts
do; its rule is the first one, which goes on with the second one, and that is the
two rules joined exactly if the second one is a single condition.  So texts of
which all but the first one are single conditions may as well be compiled apart
and combined. -/
theorem compile_join_compositional (connective : Connective) :
    (∀ (seam : Seam) (first second : String),
      ((∃ rule, compile (seam.join connective first second) = .ok rule) ↔
        (∃ left, compile first = .ok left) ∧ ∃ right, compile second = .ok right) ∧
      ∀ left right, compile first = .ok left → compile second = .ok right →
        compile (seam.join connective first second) = .ok (left.goOn connective.word right) ∧
        (compile (seam.join connective first second) = .ok (.join connective.word left right) ↔
          right.kind = .operand)) ∧
    ∀ (first : String) (others : List (Seam × String)),
      (∀ other ∈ others, ∃ condition, compile other.2 = .ok (.leaf condition)) →
      ∀ rule, compile (Seam.joinAll connective first others) = .ok rule ↔
        ∃ rules : List Rule, (first :: others.map Prod.snd).map compile = rules.map .ok ∧
          combineAll connective.word rules = .ok rule := by
  constructor
  · intro seam first second
    constructor
    · constructor
      · rintro ⟨rule, compiled⟩
        rcases compile_join_eq_ok_iff.mp compiled with ⟨left, right, leftOk, rightOk, -⟩
        exact ⟨⟨left, leftOk⟩, ⟨right, rightOk⟩⟩
      · rintro ⟨⟨left, leftOk⟩, ⟨right, rightOk⟩⟩
        exact ⟨_, compile_join_eq_ok_iff.mpr ⟨left, right, leftOk, rightOk, rfl⟩⟩
    · intro left right leftOk rightOk
      have joined : compile (seam.join connective first second) =
          .ok (left.goOn connective.word right) :=
        compile_join_eq_ok_iff.mpr ⟨left, right, leftOk, rightOk, rfl⟩
      refine ⟨joined, ?_⟩
      rw [joined, Except.ok.injEq]
      exact goOn_eq_join_iff
  · exact fun first others single rule => compile_joinAll_eq_ok_iff single

/-- A second text of two conditions is joined one condition after the other, and
single conditions are combined. -/
theorem compile_join_compositional_of_two_conditions :
    compile "a = 1 OR b > 2" = .ok (.join "OR" (.leaf "a = 1") (.leaf "b > 2")) ∧
      compile " c < 3\tOR d = x" = .ok (.join "OR" (.leaf "c < 3") (.leaf "d = x")) ∧
      compile "a = 1 OR b > 2 \tAND\n c < 3\tOR d = x" =
        .ok (.join "OR" (.join "AND" (.join "OR" (.leaf "a = 1") (.leaf "b > 2")) (.leaf "c < 3"))
          (.leaf "d = x")) ∧
      compile "a = 1 OR b > 2 \tAND\nc < 3 \tAND\n d = x " =
        combineAll "AND"
          [.join "OR" (.leaf "a = 1") (.leaf "b > 2"), .leaf "c < 3", .leaf "d = x"] := by
  let seam : Seam := ⟨" \t", "\n", by decide, by decide, by decide, by decide⟩
  have firstOk : compile "a = 1 OR b > 2" = .ok (.join "OR" (.leaf "a = 1") (.leaf "b > 2")) := by
    decide +kernel
  have secondOk : compile " c < 3\tOR d = x" =
      .ok (.join "OR" (.leaf "c < 3") (.leaf "d = x")) := by
    decide +kernel
  have compositional := compile_join_compositional .and
  refine ⟨firstOk, secondOk, ?_, ?_⟩
  · exact ((compositional.1 seam _ _).2 _ _ firstOk secondOk).1
  · have single : ∀ other ∈ [(seam, "c < 3"), (seam, " d = x ")],
        ∃ condition, compile other.2 = .ok (.leaf condition) := by
      rw [List.forall_mem_cons, List.forall_mem_singleton]
      exact ⟨⟨"c < 3", by decide +kernel⟩, ⟨"d = x", by decide +kernel⟩⟩
    apply (compositional.2 "a = 1 OR b > 2" _ single _).mpr
    exact ⟨[.join "OR" (.leaf "a = 1") (.leaf "b > 2"), .leaf "c < 3", .leaf "d = x"],
      by decide +kernel, rfl⟩

end Rule

end Eligibility
