/-
The tokens of a template tile its text. Each token stands for a stretch of the text, its span; the
spans follow one another without gaps and are the text. A span by itself has the token that it has in
the template, at another byte (`Token.Covers`). So nothing is lost between tokens, and the offset of a
token, which is the offset that a fault gives, is the byte at which its span begins.

Spans are texts: they begin and end between characters.
-/
import Screenplay.Proofs.Template.Printing

namespace Screenplay.Template

open Screenplay.Text

theorem byteLength_eq (s : List Char) : byteLength s = (String.ofList s).utf8ByteSize := by
  induction s with
  | nil => rfl
  | cons c r ih =>
    rw [byteLength, ih, ← List.singleton_append, String.ofList_append, String.utf8ByteSize_append,
      ← String.singleton_eq_ofList, String.utf8ByteSize_singleton]

theorem byteLength_pos {s : List Char} (h : s ≠ []) : 0 < byteLength s := by
  cases s with
  | nil => exact absurd rfl h
  | cons c r => exact Nat.add_pos_left c.utf8Size_pos _

/-! ## Spans -/

/-- The stretches of the template that its tokens stand for, in order. -/
def spans (source : String) : List String := (pieces source.toList).map fun p => .ofList p.source

theorem join_ofList_source (ps : List Piece) :
    String.join (ps.map fun p => .ofList p.source) = .ofList (ps.flatMap Piece.source) := by
  rw [← String.toList_inj, String.toList_join, String.toList_ofList, List.flatMap_map]
  simp only [String.toList_ofList]

/-- The spans of a template are its text. -/
theorem join_spans (source : String) : String.join (spans source) = source := by
  rw [spans, join_ofList_source, source_pieces, String.ofList_toList]

theorem length_tokensAt (offset : Nat) (ps : List Piece) : (tokensAt offset ps).length = ps.length := by
  induction ps generalizing offset with
  | nil => rfl
  | cons p ps ih => rw [tokensAt, List.length_cons, ih, List.length_cons]

/-! ## Places -/

namespace Token

/-- The same token at another byte. -/
def moved (offset : Nat) : Token → Token
  | openBlock c name _ => openBlock c name offset
  | closeBlock c _ => closeBlock c offset
  | tok => tok

/-- The whole of its span, for a token that keeps it. -/
def raw? : Token → Option String
  | text raw | pair _ _ raw => some raw
  | _ => none

end Token

theorem moved_classify (inner : List Char) (offset offset' : Nat) :
    (classify inner offset).moved offset' = classify inner offset' := by
  unfold classify
  dsimp only
  split
  · split
    · split <;> rfl
    · rfl
  · split <;> rfl
  · split
    · split <;> rfl
    · split <;> rfl
    · rfl

theorem moved_token (p : Piece) (offset offset' : Nat) : (p.token offset).moved offset' = p.token offset' := by
  cases p with
  | literal text => rfl
  | tag inner => exact moved_classify inner offset offset'

theorem offset?_token {p : Piece} {offset o : Nat} (h : (p.token offset).offset? = some o) : o = offset := by
  cases p with
  | literal text => cases h
  | tag inner => exact offset?_classify h

theorem raw?_classify {inner : List Char} {offset : Nat} {raw : String} (h : (classify inner offset).raw? = some raw) :
    raw = .ofList (Piece.tag inner).source := by
  have htag := tagToken_classify inner offset
  generalize classify inner offset = tok at h htag
  cases htag with
  | name | openBlock | closeBlock => cases h
  | pair | text => cases h; rfl

theorem raw?_token {p : Piece} {offset : Nat} {raw : String} (h : (p.token offset).raw? = some raw) :
    raw = .ofList p.source := by
  cases p with
  | literal text => cases h; rfl
  | tag inner => exact raw?_classify h

/-- The offsets of tokens grow, since no span is empty. -/
theorem pairwise_offset?_tokensAt {ps : List Piece} (h : ∀ p ∈ ps, p.source ≠ []) (offset : Nat) :
    (∀ o ∈ (tokensAt offset ps).filterMap Token.offset?, offset ≤ o) ∧
      ((tokensAt offset ps).filterMap Token.offset?).Pairwise (· < ·) := by
  induction ps generalizing offset with
  | nil => exact ⟨by simp [tokensAt], .nil⟩
  | cons p ps ih =>
    obtain ⟨hle, hlt⟩ := ih (fun q hq => h q (by simp [hq])) (offset + byteLength p.source)
    have hpos : 0 < byteLength p.source := byteLength_pos (h p (by simp))
    rw [tokensAt]
    cases ho : (p.token offset).offset? with
    | none =>
      rw [List.filterMap_cons_none ho]
      exact ⟨fun o hmem => (Nat.le_add_right _ _).trans (hle o hmem), hlt⟩
    | some o =>
      rw [List.filterMap_cons_some ho]
      cases offset?_token ho
      refine ⟨fun o' hmem => ?_, .cons (fun o' hmem => ?_) hlt⟩
      · rcases List.mem_cons.1 hmem with rfl | hmem
        · exact Nat.le_refl _
        · exact (Nat.le_add_right _ _).trans (hle o' hmem)
      · have := hle o' hmem
        omega

/-! ## One span -/

/-- A tag: two braces that open it, and all up to the first two braces behind them that close it. -/
structure IsTag (s : List Char) : Prop where
  braces : ∃ inner, s = tagOpen ++ inner ++ tagClose
  first : ∀ inner rest, s = tagOpen ++ inner ++ tagClose ++ rest → rest = []

theorem isTag_of_clear {inner : List Char} (h : Clear '\x7d' inner) : IsTag (Piece.tag inner).source where
  braces := ⟨inner, rfl⟩
  first inner' rest hs := by
    have hcut : cut tagClose (inner ++ tagClose) = some (inner, []) := by
      have hclose := cut_self_append tagClose [] (by decide)
      rw [List.append_nil] at hclose
      rw [tagClose, cut_append h, ← tagClose, hclose, Option.map_some, List.append_nil]
    have hinner : inner ++ tagClose = inner' ++ tagClose ++ rest := by
      rw [Piece.source, List.append_assoc, List.append_assoc, List.append_assoc] at hs
      rw [List.append_cancel_left hs, List.append_assoc]
    have hle := (prefix_of_cut hcut hinner).length_le
    have hlen := congrArg List.length hinner
    simp only [List.length_append] at hlen
    exact List.eq_nil_of_length_eq_zero (by omega)

theorem Seamless.alone {ps : List Piece} (h : Seamless ps) {p : Piece} (hp : p ∈ ps) : pieces p.source = [p] := by
  obtain ⟨before, after, rfl⟩ := List.append_of_mem hp
  have hone : Seamless [p] := by
    rcases h.right.1 with hfirm | ⟨-, hlast⟩
    · exact ⟨.inl hfirm, trivial⟩
    · exact ⟨.inr ⟨rfl, hlast⟩, trivial⟩
  have hpieces := pieces_flatMap_source hone
  rwa [List.flatMap_singleton, merged, merged, glue_nil] at hpieces

theorem source_ne_nil {p : Piece} (h : pieces p.source = [p]) : p.source ≠ [] := by
  intro hnil
  rw [hnil, pieces_eq] at h
  cases h

theorem not_infix_of_clear {c : Char} {s : List Char} (h : Clear c s) : ¬ [c, c] <:+: s := by
  have hcut := cut_append h []
  rw [List.append_nil] at hcut
  exact cut_eq_none_iff.1 hcut

/-- A text that is one piece has no tag in it: nothing opens one, or nothing closes the first that is opened. -/
theorem open_of_pieces_eq {s : List Char} (h : pieces s = [.literal s]) {before after : List Char}
    (hs : s = before ++ tagOpen ++ after) : ¬ tagClose <:+: after := by
  rw [pieces_eq] at h
  cases hcut : cut tagOpen s with
  | none => exact absurd ⟨before, after, hs.symm⟩ (cut_eq_none_iff.1 hcut)
  | some p =>
    obtain ⟨first, r⟩ := p
    rw [hcut] at h
    dsimp only at h
    cases hclose : cut tagClose r with
    | some q =>
      rw [hclose] at h
      have htag : Piece.tag q.1 ∈ [Piece.literal s] := h ▸ by simp
      cases List.mem_singleton.1 htag
    | none =>
      -- What follows any opening is the end of what follows the first.
      have hle := (prefix_of_cut hcut hs).length_le
      have hr : after <:+ r := by
        refine List.suffix_of_suffix_length_le ⟨before ++ tagOpen, hs.symm⟩ ⟨first ++ tagOpen, (eq_of_cut hcut).symm⟩ ?_
        have hlen := congrArg List.length (hs.symm.trans (eq_of_cut hcut))
        simp only [List.length_append] at hlen
        omega
      exact fun hin => cut_eq_none_iff.1 hclose (hin.trans hr.isInfix)

/-- What holds of a token and its span, which begins at byte `start`; `last` tells whether it is the last
span of the template. -/
structure Token.Covers (tok : Token) (span : String) (start : Nat) (last : Prop) : Prop where
  nonempty : span ≠ ""
  /-- Texts and pairs keep their span as it stands. -/
  raw : ∀ raw, tok.raw? = some raw → raw = span
  /-- A token that is no text stands for a tag. -/
  tag : (∀ raw, tok ≠ .text raw) → IsTag span.toList
  /-- By itself the span has the same token, at its own first byte. -/
  alone : tokens span = [tok.moved 0]
  offset : ∀ o, tok.offset? = some o → o = start
  /-- A text is a tag that means nothing, or opens no tag, or is the end of the template and closes no tag
  that it opens. -/
  text : ∀ raw, tok = .text raw → IsTag span.toList ∨ ¬ tagOpen <:+: span.toList ∨
    last ∧ ∀ before after, span.toList = before ++ tagOpen ++ after → ¬ tagClose <:+: after

theorem covers_token {before after : List Piece} {p : Piece} (h : Seamless (before ++ p :: after)) {last : Prop}
    (hlast : after = [] → last) (start : Nat) : (p.token start).Covers (.ofList p.source) start last := by
  have halone : pieces p.source = [p] := h.alone (by simp)
  have hend := h.right.1
  refine ⟨fun hempty => ?_, fun raw => raw?_token, fun htext => ?_, ?_, fun o => offset?_token, fun raw htext => ?_⟩
  · exact source_ne_nil halone (String.ofList_eq_empty_iff.1 hempty)
  · rw [String.toList_ofList]
    cases p with
    | literal text => exact absurd rfl (htext (.ofList text))
    | tag inner => exact isTag_of_clear (hend.resolve_right nofun)
  · rw [tokens, String.toList_ofList, halone, tokensAt, tokensAt, moved_token]
  · rw [String.toList_ofList]
    cases p with
    | tag inner => exact .inl (isTag_of_clear (hend.resolve_right nofun))
    | literal text =>
      rcases hend with hfirm | ⟨hnil, -⟩
      · exact .inr (.inl (not_infix_of_clear hfirm.2))
      · exact .inr (.inr ⟨hlast hnil, fun _ _ => open_of_pieces_eq halone⟩)

/-- The offset that a fault gives. -/
def SyntaxError.offset? : SyntaxError → Option Nat
  | .unbalanced _ _ _ => none
  | .misnested _ _ o | .unexpectedClose _ o | .unclosed _ o | .missingName _ o => some o

theorem exists_token_of_fault {source : String} {fault : SyntaxError} (h : compile source = .error fault) {o : Nat}
    (ho : fault.offset? = some o) :
    ∃ (k : Nat) (tok : Token), (tokens source)[k]? = some tok ∧ tok.offset? = some o := by
  cases treeOf_eq_error_iff.1 (compile_eq_error_iff.1 h) with
  | unbalanced => cases ho
  | @misplaced before tok after _ _ hts _ _ hoffence =>
    refine ⟨before.length, tok, by rw [hts]; simp, ?_⟩
    cases hoffence with
    | nameless | nothingOpen | otherOpen => exact ho

theorem covers_of_getElem? {source span : String} {k : Nat} {tok : Token} (htok : (tokens source)[k]? = some tok)
    (hspan : (spans source)[k]? = some span) :
    tok.Covers span (String.join ((spans source).take k)).utf8ByteSize (k + 1 = (spans source).length) := by
  obtain ⟨hk, rfl⟩ := List.getElem?_eq_some_iff.1 htok
  have hsplit : tokens source = (tokens source).take k ++ (tokens source)[k] :: (tokens source).drop (k + 1) := by
    rw [List.getElem_cons_drop, List.take_append_drop]
  obtain ⟨before, p, after, hps, hlen, htoken⟩ := piece_of_token hsplit
  rw [List.length_take_of_le hk.le] at hlen
  subst hlen
  have hseamless := seamless_pieces source.toList
  rw [hps] at hseamless
  rw [spans, hps, List.map_append, List.map_cons, List.getElem?_append_right (List.length_map _).le, List.length_map,
    Nat.sub_self] at hspan
  cases hspan
  have hstart : (String.join ((spans source).take before.length)).utf8ByteSize =
      0 + byteLength (before.flatMap Piece.source) := by
    rw [spans, hps, ← List.map_take, List.take_left, join_ofList_source, byteLength_eq, Nat.zero_add]
  rw [htoken, hstart]
  refine covers_token hseamless (fun hnil => ?_) _
  rw [spans, hps, hnil, List.length_map, List.length_append, List.length_singleton]

/-- **The tokens of a template tile its text.** There are as many spans as tokens, and together they are
the text. Each token covers its span, which begins at the byte where the spans before it end. So offsets
grow from token to token, and the offset of a fault is the byte at which the span of a token begins. -/
theorem tokens_tile (source : String) :
    String.join (spans source) = source ∧ (spans source).length = (tokens source).length ∧
      (∀ (k : Nat) (tok : Token) (span : String), (tokens source)[k]? = some tok → (spans source)[k]? = some span →
        tok.Covers span (String.join ((spans source).take k)).utf8ByteSize (k + 1 = (spans source).length)) ∧
      ((tokens source).filterMap Token.offset?).Pairwise (· < ·) ∧
      (∀ fault o, compile source = .error fault → fault.offset? = some o →
        ∃ (k : Nat) (tok : Token), (tokens source)[k]? = some tok ∧ tok.offset? = some o ∧
          o = (String.join ((spans source).take k)).utf8ByteSize) := by
  have hlength : (spans source).length = (tokens source).length := by
    rw [spans, List.length_map, tokens, length_tokensAt]
  have hnonempty : ∀ p ∈ pieces source.toList, p.source ≠ [] := fun p hp =>
    source_ne_nil ((seamless_pieces source.toList).alone hp)
  refine ⟨join_spans source, hlength, fun k tok span => covers_of_getElem?, (pairwise_offset?_tokensAt hnonempty 0).2,
    fun fault o hfault ho => ?_⟩
  obtain ⟨k, tok, htok, hoffset⟩ := exists_token_of_fault hfault ho
  obtain ⟨hk, -⟩ := List.getElem?_eq_some_iff.1 htok
  have hspan : (spans source)[k]? = some (spans source)[k] := List.getElem?_eq_getElem (hlength ▸ hk)
  exact ⟨k, tok, htok, hoffset, (covers_of_getElem? htok hspan).offset o hoffset⟩

end Screenplay.Template
