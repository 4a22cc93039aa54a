/-
Putting pieces of templates together. Pieces that were cut from a template can
be put together in another way, with other tags or with some of them left out,
and where they meet no tag arises, goes or moves: a text before a tag does not
end with the first half of a tag's mark, and neither does the inside of a tag
(`Piece.Firm`). Only the last text of a template may hold marks, of a tag that
is never closed. So what pieces make together is cut into them again, with texts
that meet in one (`pieces_flatMap_source`).
-/
import Screenplay.Proofs.Template.Growth

namespace Screenplay.Template

open Screenplay.Text

/-! ## Doubled characters -/

/-- Behind each `c` of the text stands another character. -/
def Clear (c : Char) : List Char → Prop
  | [] => True
  | d :: r => (d = c → ∃ e, r.head? = some e ∧ e ≠ c) ∧ Clear c r

theorem clear_of_not_mem {c : Char} {s : List Char} (h : c ∉ s) : Clear c s := by
  induction s with
  | nil => trivial
  | cons d r ih =>
    simp only [List.mem_cons, not_or] at h
    exact ⟨fun hd => absurd hd.symm h.1, ih h.2⟩

theorem clear_of_cut {c : Char} {s before after : List Char} (h : cut [c, c] s = some (before, after)) :
    Clear c before := by
  induction s generalizing before with
  | nil => simp [cut] at h
  | cons d r ih =>
    simp only [cut] at h
    split at h
    · cases h; trivial
    · next hp =>
      obtain ⟨⟨b, a⟩, hb, he⟩ := Option.map_eq_some_iff.1 h
      cases he
      refine ⟨fun hd => ?_, ih hb⟩
      -- A `c` that ends `before`, or has another behind it, would begin a `cc` before this one.
      subst hd
      rw [eq_of_cut hb] at hp
      cases b with
      | nil => simp at hp
      | cons e b => exact ⟨e, rfl, fun he => hp (by simp [he])⟩

/-- The first `cc` behind a clear text is the first `cc` of what follows it. -/
theorem cut_append {c : Char} {s : List Char} (h : Clear c s) (t : List Char) :
    cut [c, c] (s ++ t) = (cut [c, c] t).map fun p => (s ++ p.1, p.2) := by
  induction s with
  | nil => simp
  | cons d r ih =>
    obtain ⟨hd, hr⟩ := h
    have hp : List.isPrefixOf [c, c] (d :: (r ++ t)) = false := by
      rw [Bool.eq_false_iff]
      intro hpre
      obtain ⟨u, hu⟩ := isPrefixOf_iff.1 hpre
      obtain ⟨hdc, hu⟩ := List.cons.inj hu
      obtain ⟨e, he, hne⟩ := hd hdc
      cases r with
      | nil => cases he
      | cons e' r => cases he; exact hne (List.cons.inj hu).1
    rw [List.cons_append, cut]
    simp only [hp, Bool.false_eq_true, if_false, ih hr, Option.map_map]
    rfl

theorem cut_self_append (sep after : List Char) (hs : sep ≠ []) :
    cut sep (sep ++ after) = some ([], after) := by
  cases sep with
  | nil => exact absurd rfl hs
  | cons d r => simp [cut]

/-! ## Seams -/

/-- A piece that another can follow. -/
def Piece.Firm : Piece → Prop
  | .literal text => text ≠ [] ∧ Clear '\x7b' text
  | .tag inner => Clear '\x7d' inner

/-- Pieces that no tag arises from but their own. The last one may be a text that is not firm. -/
def Seamless : List Piece → Prop
  | [] => True
  | p :: ps => (p.Firm ∨ ps = [] ∧ ∃ text, p = .literal text ∧ pieces text = [p]) ∧ Seamless ps

theorem seamless_append {ps qs : List Piece} (hp : ∀ p ∈ ps, p.Firm) (hq : Seamless qs) :
    Seamless (ps ++ qs) := by
  induction ps with
  | nil => exact hq
  | cons p ps ih => exact ⟨.inl (hp p (by simp)), ih fun q hm => hp q (by simp [hm])⟩

theorem Seamless.right {ps qs : List Piece} (h : Seamless (ps ++ qs)) : Seamless qs := by
  induction ps with
  | nil => exact h
  | cons p ps ih => exact ih h.2

theorem Seamless.firm {ps qs : List Piece} (h : Seamless (ps ++ qs)) (hq : qs ≠ []) : ∀ p ∈ ps, p.Firm := by
  induction ps with
  | nil => simp
  | cons p ps ih =>
    intro q hm
    rcases List.mem_cons.1 hm with rfl | hm
    · exact h.1.resolve_right fun hl => hq (List.append_eq_nil_iff.1 hl.1).2
    · exact ih h.2 q hm

theorem pieces_eq (s : List Char) : pieces s =
    match cut tagOpen s with
    | none => literalPiece s
    | some (before, r) =>
      match cut tagClose r with
      | none => literalPiece s
      | some (inner, rest) => literalPiece before ++ .tag inner :: pieces rest := by
  rw [pieces]
  split
  · next h => rw [h]
  · next h =>
    rw [h]
    dsimp only
    split
    · next h' => rw [h']
    · next h' => rw [h']

theorem literalPiece_of_ne_nil {s : List Char} (h : s ≠ []) : literalPiece s = [.literal s] := by
  simp [literalPiece, h]

theorem seamless_pieces (s : List Char) : Seamless (pieces s) := by
  fun_induction pieces s with
  | case1 s h =>
    by_cases hs : s = []
    · subst hs; trivial
    · rw [literalPiece_of_ne_nil hs]
      refine ⟨.inr ⟨rfl, s, rfl, ?_⟩, trivial⟩
      rw [pieces_eq, h, literalPiece_of_ne_nil hs]
  | case2 s before r h h' =>
    have hs : s ≠ [] := by rintro rfl; cases h
    rw [literalPiece_of_ne_nil hs]
    refine ⟨.inr ⟨rfl, s, rfl, ?_⟩, trivial⟩
    rw [pieces_eq, h]
    simp only [h', literalPiece_of_ne_nil hs]
  | case3 s before r h inner rest h' ih =>
    refine seamless_append (fun p hp => ?_) ⟨.inl (clear_of_cut h'), ih⟩
    by_cases hb : before = []
    · subst hb; cases hp
    · rw [literalPiece_of_ne_nil hb] at hp
      cases List.mem_singleton.1 hp
      exact ⟨hb, clear_of_cut h⟩

/-! ## Putting together -/

/-- A piece before others; texts that meet are one. -/
def glue : Piece → List Piece → List Piece
  | .literal s, .literal t :: ps => .literal (s ++ t) :: ps
  | p, ps => p :: ps

/-- Pieces without texts that meet. -/
def merged : List Piece → List Piece
  | [] => []
  | p :: ps => glue p (merged ps)

theorem glue_nil (p : Piece) : glue p [] = [p] := by
  cases p <;> rfl

theorem glue_literal {s t : List Char} (ht : t ≠ []) (ps : List Piece) :
    glue (.literal s) (literalPiece t ++ ps) = literalPiece (s ++ t) ++ ps := by
  rw [literalPiece_of_ne_nil ht, literalPiece_of_ne_nil (by simp [ht])]
  rfl

theorem glue_literal_end {s : List Char} (hs : s ≠ []) (t : List Char) :
    glue (.literal s) (literalPiece t) = literalPiece (s ++ t) := by
  by_cases ht : t = []
  · subst ht
    rw [List.append_nil, literalPiece_of_ne_nil hs]
    rfl
  · simpa using glue_literal ht []

theorem pieces_literal_append {s : List Char} (hs : s ≠ []) (hc : Clear '\x7b' s) (t : List Char) :
    pieces (s ++ t) = glue (.literal s) (pieces t) := by
  rw [pieces_eq (s ++ t), pieces_eq t, tagOpen, cut_append hc]
  cases cut ['\x7b', '\x7b'] t with
  | none => exact (glue_literal_end hs t).symm
  | some p =>
    obtain ⟨before, r⟩ := p
    simp only [Option.map_some]
    cases cut tagClose r with
    | none => exact (glue_literal_end hs t).symm
    | some q =>
      obtain ⟨inner, rest⟩ := q
      by_cases hb : before = []
      · subst hb
        simp only [List.append_nil, literalPiece_of_ne_nil hs]
        rfl
      · exact (glue_literal hb _).symm

theorem pieces_tag_append {inner : List Char} (hc : Clear '\x7d' inner) (t : List Char) :
    pieces (tagOpen ++ inner ++ tagClose ++ t) = .tag inner :: pieces t := by
  rw [pieces_eq, List.append_assoc, List.append_assoc, cut_self_append _ _ (by decide)]
  dsimp only
  rw [tagClose, cut_append hc, cut_self_append _ _ (by decide)]
  simp [literalPiece]

/-- **Pieces keep.** Seamless pieces put together are cut into the same pieces, but for texts
that meet. -/
theorem pieces_flatMap_source {ps : List Piece} (h : Seamless ps) :
    pieces (ps.flatMap Piece.source) = merged ps := by
  induction ps with
  | nil => rw [List.flatMap_nil, pieces_eq]; rfl
  | cons p ps ih =>
    rw [List.flatMap_cons]
    obtain ⟨hp | ⟨rfl, text, rfl, hp⟩, hps⟩ := h
    · rw [merged, ← ih hps]
      cases p with
      | literal text => exact pieces_literal_append hp.1 hp.2 _
      | tag inner => exact pieces_tag_append hp _
    · rw [List.flatMap_nil, List.append_nil, Piece.source, hp, merged, merged, glue_nil]

/-! ## The tree of pieces -/

theorem grow_glue (frames : List Frame) (done : List Node) (p : Piece) (ps : List Piece) :
    grow frames done ((glue p ps).map Piece.mark) = grow frames done (p.mark :: ps.map Piece.mark) := by
  unfold glue
  split
  · simp only [List.map_cons, mark_literal, grow, pushNode_text_text, String.ofList_append]
  · rfl

/-- Joining texts that meet does not change the tree. -/
theorem grow_merged (frames : List Frame) (done : List Node) (ps : List Piece) :
    grow frames done ((merged ps).map Piece.mark) = grow frames done (ps.map Piece.mark) := by
  induction ps generalizing frames done with
  | nil => rfl
  | cons p ps ih =>
    rw [merged, grow_glue, List.map_cons]
    exact grow_cons_congr ih p.mark frames done

/-- A template that is put together from pieces compiles to the tree of the pieces. -/
theorem compile_flatMap_source {ps : List Piece} (h : Seamless ps) {source : String}
    (hs : source.toList = ps.flatMap Piece.source) {t : Template} :
    compile source = .ok t ↔ grow [] [] (ps.map Piece.mark) = some t.nodes := by
  rw [compile_eq_ok_iff_grow, marks, hs, pieces_flatMap_source h, grow_merged]

end Screenplay.Template
