/-
Conditional blocks can be resolved in the text of a template, before it is
rendered: an `if` or `unless` block with no block in it gives way to its body or
to nothing (`Resolves`). Whichever block is taken next, this comes to an end at
a text without blocks, every text on the way is a template, and all of them put
out the same (`render_of_resolves`).

The rewriting is of text and rendering is of trees. In between stands a reading
of marks that puts out text at once and keeps no tree (`emit`): on templates
without `each` it is rendering (`emit_of_grow`), and to it a block is its body or
nothing wherever it stands (`emit_of_resolve`).
-/
import Mathlib.Logic.Relation
import Screenplay.Proofs.Template.Cutting
import Screenplay.Template.Node

namespace Screenplay.Template

/-! ## Resolving a block -/

def Mark.isBlock : Mark → Bool
  | .leaf _ => false
  | _ => true

def Mark.opensEach : Mark → Bool
  | .opening .each _ => true
  | _ => false

/-- Whether a conditional block keeps its body. -/
def keeps (s : Scope) : Construct → String → Bool
  | .whenTrue, name => holds (s.lookup? name)
  | .whenFalse, name => !holds (s.lookup? name)
  | .each, _ => false

/-- One text comes from another when a conditional block with no block in it is resolved: the
text from its open tag through its close tag gives way to its body if the block keeps it in
the context, and else to nothing. -/
inductive Resolves (c : Context) (source : String) : String → Prop
  | block {before opening body closing after construct name result} :
      pieces source.toList = before ++ opening :: (body ++ closing :: after) →
      opening.mark = .opening construct name → closing.mark = .closing construct → construct ≠ .each →
      (∀ p ∈ body, p.mark.isBlock = false) →
      result.toList = before.flatMap Piece.source ++
        (if keeps ⟨[], c⟩ construct name then body.flatMap Piece.source else []) ++
        after.flatMap Piece.source →
      Resolves c source result

/-! ## Putting out at once -/

/-- An open block with the text that was put out before it. -/
structure Held where
  construct : Construct
  name : String
  before : String

/-- The text of marks inside open blocks, innermost first, behind text already put out. -/
def emit (s : Scope) (held : List Held) (out : String) : List Mark → Option String
  | [] => if held.isEmpty then some out else none
  | .leaf n :: ms => emit s held (out ++ renderNode s n) ms
  | .opening c name :: ms => if name.isEmpty then none else emit s (⟨c, name, out⟩ :: held) "" ms
  | .closing c :: ms =>
    match held with
    | [] => none
    | b :: outer =>
      if b.construct = c then emit s outer (b.before ++ if keeps s c b.name then out else "") ms
      else none

theorem renderNodes_eq_join (s : Scope) (ns : List Node) :
    renderNodes s ns = String.join (ns.map (renderNode s)) := by
  induction ns with
  | nil => simp [renderNodes]
  | cons n ns ih => rw [renderNodes, ih, List.map_cons, String.join_cons]

theorem renderNodes_pushNode (s : Scope) (n : Node) (done : List Node) :
    renderNodes s (pushNode n done).reverse = renderNodes s done.reverse ++ renderNode s n := by
  rw [renderNodes_eq_join, renderNodes_eq_join, join_map_pushNode fun t => by rw [renderNode]]

theorem renderNode_block (s : Scope) {c : Construct} (hc : c ≠ .each) (name : String) (body : List Node) :
    renderNode s (.block c name body) = if keeps s c name then renderNodes s body else "" := by
  cases c with
  | each => exact absurd rfl hc
  | whenTrue => rw [renderNode, keeps]
  | whenFalse =>
    rw [renderNode, keeps]
    cases holds (s.lookup? name) <;> rfl

def Frame.held (s : Scope) (f : Frame) : Held := ⟨f.construct, f.name, renderNodes s f.before.reverse⟩

/-- Without `each` blocks, what is put out at once is what the tree renders to. -/
theorem emit_of_grow (s : Scope) {frames : List Frame} {done : List Node} {ms : List Mark}
    (hf : ∀ f ∈ frames, f.construct ≠ .each) (hm : ∀ m ∈ ms, m.opensEach = false) :
    emit s (frames.map (Frame.held s)) (renderNodes s done.reverse) ms =
      (grow frames done ms).map (renderNodes s) := by
  induction ms generalizing frames done with
  | nil =>
    cases frames with
    | nil => rfl
    | cons f outer => rfl
  | cons m ms ih =>
    have hms : ∀ m' ∈ ms, m'.opensEach = false := fun m' h => hm m' (by simp [h])
    cases m with
    | leaf n =>
      rw [emit, grow, ← renderNodes_pushNode]
      exact ih hf hms
    | opening c name =>
      rw [emit, grow]
      split
      · rfl
      · have hc : c ≠ .each := by
          rintro rfl
          cases hm (.opening .each name) (by simp)
        exact @ih (⟨c, name, done⟩ :: frames) []
          (fun f h => (List.mem_cons.1 h).elim (fun he => he ▸ hc) (hf f)) hms
    | closing c =>
      cases frames with
      | nil => rfl
      | cons f outer =>
        rw [List.map_cons, emit, grow]
        by_cases hc : f.construct = c
        · subst hc
          have hout : renderNodes s (pushNode (.block f.construct f.name done.reverse) f.before).reverse =
              renderNodes s f.before.reverse ++
                if keeps s f.construct f.name then renderNodes s done.reverse else "" := by
            rw [renderNodes_pushNode, renderNode_block s (hf f (by simp))]
          have hrest := @ih outer (pushNode (.block f.construct f.name done.reverse) f.before)
            (fun g h => hf g (by simp [h])) hms
          rw [hout] at hrest
          rw [if_pos (show (f.held s).construct = f.construct from rfl), if_pos rfl]
          exact hrest
        · rw [if_neg (show ¬ (f.held s).construct = c from hc), if_neg hc]
          rfl

/-! ## A block is its body or nothing -/

theorem emit_leaves (s : Scope) {body : List Mark} (hb : ∀ m ∈ body, m.isBlock = false) :
    ∃ text, ∀ held out ms, emit s held out (body ++ ms) = emit s held (out ++ text) ms := by
  induction body with
  | nil => exact ⟨"", fun held out ms => by rw [List.nil_append, String.append_empty]⟩
  | cons m body ih =>
    obtain ⟨text, ht⟩ := ih fun m' h => hb m' (by simp [h])
    cases m with
    | leaf n =>
      refine ⟨renderNode s n ++ text, fun held out ms => ?_⟩
      rw [List.cons_append, emit, ht, String.append_assoc]
    | opening c name => cases hb (.opening c name) (by simp)
    | closing c => cases hb (.closing c) (by simp)

/-- Where a block is put out, its body or nothing is. -/
theorem emit_of_resolve {s : Scope} {held : List Held} {out text : String} {c : Construct} {name : String}
    {body ms : List Mark} (hb : ∀ m ∈ body, m.isBlock = false)
    (h : emit s held out (.opening c name :: (body ++ .closing c :: ms)) = some text) :
    emit s held out ((if keeps s c name then body else []) ++ ms) = some text := by
  obtain ⟨inside, hi⟩ := emit_leaves s hb
  rw [emit] at h
  split at h
  · cases h
  · rw [hi, emit, if_pos rfl, String.empty_append] at h
    cases hk : keeps s c name with
    | true => rw [hk, if_pos rfl] at h; rw [if_pos rfl, hi]; exact h
    | false => simpa [hk] using h

theorem emit_append {s : Scope} {ms ms' : List Mark} {text : String}
    (h : ∀ held out, emit s held out ms = some text → emit s held out ms' = some text) (before : List Mark)
    {held : List Held} {out : String} (he : emit s held out (before ++ ms) = some text) :
    emit s held out (before ++ ms') = some text := by
  induction before generalizing held out with
  | nil => exact h held out he
  | cons m before ih =>
    cases m with
    | leaf n => exact ih he
    | opening c name =>
      rw [List.cons_append, emit] at he ⊢
      split at he
      · cases he
      · next hn => rw [if_neg hn]; exact ih he
    | closing c =>
      cases held with
      | nil => cases he
      | cons b outer =>
        rw [List.cons_append, emit] at he ⊢
        split at he
        · next hc => rw [if_pos hc]; exact ih he
        · cases he

/-! ## The pieces of the result -/

theorem countP_glue {q : Mark → Bool} (hq : ∀ n, q (.leaf n) = false) (p : Piece) (ps : List Piece) :
    ((glue p ps).map Piece.mark).countP q = (p.mark :: ps.map Piece.mark).countP q := by
  unfold glue
  split
  · simp [hq]
  · rfl

theorem countP_merged {q : Mark → Bool} (hq : ∀ n, q (.leaf n) = false) (ps : List Piece) :
    ((merged ps).map Piece.mark).countP q = (ps.map Piece.mark).countP q := by
  induction ps with
  | nil => rfl
  | cons p ps ih => rw [merged, countP_glue hq, List.countP_cons, ih, List.map_cons, List.countP_cons]

/-- The result of a step is put together from the pieces of the text, without seams. -/
theorem Resolves.pieces {c : Context} {source result : String} (h : Resolves c source result) :
    ∃ before construct name body after ps,
      marks source = before ++ .opening construct name :: (body ++ .closing construct :: after) ∧
      (∀ m ∈ body, m.isBlock = false) ∧ Seamless ps ∧ result.toList = ps.flatMap Piece.source ∧
      ps.map Piece.mark = before ++ ((if keeps ⟨[], c⟩ construct name then body else []) ++ after) := by
  cases h with
  | @block before opening body closing after construct name _ hp ho hc _ hb hr =>
    have hs := seamless_pieces source.toList
    rw [hp] at hs
    have hbefore := hs.firm (by simp)
    have hblock : Seamless (opening :: (body ++ closing :: after)) := hs.right
    have hbody := hblock.2.firm (by simp)
    have hclose : Seamless (closing :: after) := hblock.2.right
    refine ⟨before.map Piece.mark, construct, name, body.map Piece.mark, after.map Piece.mark,
      before ++ ((if keeps ⟨[], c⟩ construct name then body else []) ++ after), ?_, ?_, ?_, ?_, ?_⟩
    · rw [marks, hp]
      simp [ho, hc]
    · intro m hm
      obtain ⟨p, hpm, rfl⟩ := List.mem_map.1 hm
      exact hb p hpm
    · refine seamless_append hbefore (seamless_append (fun p hp => ?_) hclose.2)
      split at hp
      · exact hbody p hp
      · cases hp
    · rw [hr]
      split <;> simp
    · split <;> simp

/-- The number of block tags of a template. -/
def blockCount (source : String) : Nat := (marks source).countP Mark.isBlock

theorem Resolves.blockCount_lt {c : Context} {source result : String} (h : Resolves c source result) :
    blockCount result < blockCount source := by
  obtain ⟨before, construct, name, body, after, ps, hm, hb, hs, hr, hps⟩ := h.pieces
  have hbody : body.countP Mark.isBlock = 0 := List.countP_eq_zero.2 fun m h => by simp [hb m h]
  rw [blockCount, blockCount, hm, marks, hr, pieces_flatMap_source hs, countP_merged (fun _ => rfl), hps,
    List.countP_append, List.countP_append, List.countP_append, List.countP_cons_of_pos (by rfl),
    List.countP_append, List.countP_cons_of_pos (by rfl), hbody]
  split
  · omega
  · rw [List.countP_nil]
    omega

theorem Resolves.opensEach {c : Context} {source result : String} (h : Resolves c source result)
    (he : (marks source).countP Mark.opensEach = 0) : (marks result).countP Mark.opensEach = 0 := by
  obtain ⟨before, construct, name, body, after, ps, hm, -, hs, hr, hps⟩ := h.pieces
  rw [hm, List.countP_append, List.countP_cons, List.countP_append, List.countP_cons] at he
  rw [marks, hr, pieces_flatMap_source hs, countP_merged (fun _ => rfl), hps, List.countP_append,
    List.countP_append]
  split
  · omega
  · rw [List.countP_nil]
    omega

/-- **A step keeps what a template puts out**, and that it is a template. -/
theorem Resolves.render {c : Context} {source result : String} {t : Template} (h : Resolves c source result)
    (ht : compile source = .ok t) (he : (marks source).countP Mark.opensEach = 0) :
    ∃ t', compile result = .ok t' ∧ t'.render c = t.render c := by
  have he' := h.opensEach he
  obtain ⟨before, construct, name, body, after, ps, hm, hb, hs, hr, hps⟩ := h.pieces
  have hcount : (ps.map Piece.mark).countP Mark.opensEach = 0 := by
    rw [marks, hr, pieces_flatMap_source hs, countP_merged (fun _ => rfl)] at he'
    exact he'
  have hnone : ∀ {ms : List Mark}, ms.countP Mark.opensEach = 0 → ∀ m ∈ ms, m.opensEach = false :=
    fun h m hm => by simpa using List.countP_eq_zero.1 h m hm
  -- The text that the tree of `source` renders to is put out by its marks at once.
  have hout : emit ⟨[], c⟩ [] "" (marks source) = some (t.render c) := by
    have := @emit_of_grow ⟨[], c⟩ [] [] (marks source) (by simp) (hnone he)
    rw [compile_eq_ok_iff_grow.1 ht] at this
    exact this
  rw [hm] at hout
  have hres := emit_append (fun _ _ => emit_of_resolve hb) before hout
  rw [← hps] at hres
  have hgrow := @emit_of_grow ⟨[], c⟩ [] [] (ps.map Piece.mark) (by simp) (hnone hcount)
  rw [List.map_nil, List.reverse_nil, renderNodes, hres] at hgrow
  obtain ⟨ns, hns, hren⟩ := Option.map_eq_some_iff.1 hgrow.symm
  exact ⟨⟨ns⟩, (compile_flatMap_source hs hr).2 hns, hren⟩

/-! ## Blocks that are left -/

/-- Where the first block closes that has no block in it, be it open already or not. -/
inductive Innermost : List Frame → List Mark → Prop
  | block {frames before c name body after} : (∀ m ∈ body, m.isBlock = false) →
      Innermost frames (before ++ .opening c name :: (body ++ .closing c :: after))
  /-- The innermost open block. -/
  | already {f outer body after} : (∀ m ∈ body, m.isBlock = false) →
      Innermost (f :: outer) (body ++ .closing f.construct :: after)
  | nowhere {ms} : (∀ m ∈ ms, m.isBlock = false) → Innermost [] ms

theorem innermost_of_grow {frames : List Frame} {done : List Node} {ms : List Mark} {ns : List Node}
    (h : grow frames done ms = some ns) : Innermost frames ms := by
  induction ms generalizing frames done with
  | nil =>
    cases frames with
    | nil => exact .nowhere (by simp)
    | cons f outer => cases h
  | cons m ms ih =>
    cases m with
    | leaf n =>
      cases ih h with
      | @block _ before _ _ _ _ hb => exact @Innermost.block _ (.leaf n :: before) _ _ _ _ hb
      | @already f outer body after hb =>
        exact @Innermost.already f outer (.leaf n :: body) after (by simpa [Mark.isBlock] using hb)
      | nowhere hb => exact .nowhere (by simpa [Mark.isBlock] using hb)
    | opening c name =>
      rw [grow] at h
      split at h
      · cases h
      · cases ih h with
        | @block _ before _ _ _ _ hb => exact @Innermost.block _ (.opening c name :: before) _ _ _ _ hb
        | already hb => exact @Innermost.block _ [] _ _ _ _ hb
    | closing c =>
      cases frames with
      | nil => cases h
      | cons f outer =>
        rw [grow] at h
        split at h
        · next hc =>
          subst hc
          exact @Innermost.already f outer [] ms (by simp)
        · cases h

/-- An innermost block of a template can be resolved. -/
theorem exists_resolves {source : String} {before body after : List Mark} {construct : Construct}
    {name : String} (hm : marks source = before ++ .opening construct name :: (body ++ .closing construct :: after))
    (hc : construct ≠ .each) (hb : ∀ m ∈ body, m.isBlock = false) (c : Context) :
    ∃ result, Resolves c source result := by
  obtain ⟨ps, qs, hp, -, hq⟩ := List.map_eq_append_iff.1 hm
  obtain ⟨opening, rest, rfl, ho, hr⟩ := List.map_eq_cons_iff.1 hq
  obtain ⟨inside, last, rfl, rfl, he⟩ := List.map_eq_append_iff.1 hr
  obtain ⟨closing, tail, rfl, hcl, -⟩ := List.map_eq_cons_iff.1 he
  exact ⟨.ofList _, .block hp ho hcl hc (fun p h => hb _ (List.mem_map_of_mem h)) String.toList_ofList⟩

theorem exists_isBlockTag_iff (source : String) :
    (∃ tok ∈ tokens source, tok.isBlockTag = true) ↔ ∃ m ∈ marks source, m.isBlock = true := by
  have hmark : ∀ tok : Token, tok.mark.isBlock = tok.isBlockTag := by
    intro tok
    cases tok <;> rfl
  rw [← map_mark_tokens]
  constructor
  · rintro ⟨tok, hm, ht⟩
    exact ⟨tok.mark, List.mem_map_of_mem hm, (hmark tok).trans ht⟩
  · rintro ⟨m, hm, hb⟩
    obtain ⟨tok, ht, rfl⟩ := List.mem_map.1 hm
    exact ⟨tok, ht, (hmark tok).symm.trans hb⟩

theorem opened_each_eq (source : String) :
    opened .each (tokens source) = (marks source).countP Mark.opensEach := by
  rw [opened, ← map_mark_tokens, List.countP_map]
  congr 1
  funext tok
  cases tok with
  | openBlock c name o => cases c <;> rfl
  | _ => rfl

/-! ## Resolving all blocks -/

/-- Templates without `each` blocks that put out this text. -/
structure PutsOut (c : Context) (text source : String) : Prop where
  compiles : ∃ t, compile source = .ok t ∧ t.render c = text
  noEach : (marks source).countP Mark.opensEach = 0

theorem PutsOut.step {c : Context} {text source result : String} (hp : PutsOut c text source)
    (h : Resolves c source result) : PutsOut c text result := by
  obtain ⟨⟨t, ht, hr⟩, he⟩ := hp
  obtain ⟨t', ht', hr'⟩ := h.render ht he
  exact ⟨⟨t', ht', hr'.trans hr⟩, h.opensEach he⟩

theorem PutsOut.run {c : Context} {text source result : String} (hp : PutsOut c text source)
    (h : Relation.ReflTransGen (Resolves c) source result) : PutsOut c text result := by
  induction h with
  | refl => exact hp
  | tail _ hstep ih => exact ih.step hstep

/-- A block can be resolved as long as there is one. -/
theorem PutsOut.resolves_iff {c : Context} {text source : String} (hp : PutsOut c text source) :
    (∃ result, Resolves c source result) ↔ ∃ tok ∈ tokens source, tok.isBlockTag = true := by
  rw [exists_isBlockTag_iff]
  constructor
  · rintro ⟨result, h⟩
    obtain ⟨before, construct, name, body, after, -, hm, -⟩ := h.pieces
    exact ⟨.opening construct name, by simp [hm], rfl⟩
  · rintro ⟨m, hm, hblock⟩
    obtain ⟨t, ht, -⟩ := hp.compiles
    have hi := innermost_of_grow (compile_eq_ok_iff_grow.1 ht)
    generalize hms : marks source = ms at hi hm
    cases hi with
    | @block _ before construct name body after hb =>
      refine exists_resolves hms ?_ hb c
      rintro rfl
      have hmem : Mark.opening .each name ∈ marks source := by simp [hms]
      exact List.countP_eq_zero.1 hp.noEach _ hmem rfl
    | nowhere hnone =>
      rw [hnone m hm] at hblock
      cases hblock

/-- **Blocks can be resolved in any order.** From a template without `each` blocks no order of
steps goes on for ever, every text on the way is a template that puts out the same, and steps
end only where no tag of a block is left. -/
theorem render_of_resolves {source : String} {t : Template} (h : compile source = .ok t)
    (he : opened .each (tokens source) = 0) (c : Context) :
    Acc (fun later earlier => Resolves c earlier later) source ∧
      ∀ s, Relation.ReflTransGen (Resolves c) source s →
        (∃ t', compile s = .ok t' ∧ t'.render c = t.render c) ∧
        ((∃ s', Resolves c s s') ↔ ∃ tok ∈ tokens s, tok.isBlockTag = true) := by
  constructor
  · exact Subrelation.accessible Resolves.blockCount_lt
      (InvImage.accessible blockCount (Nat.lt_wfRel.wf.apply (blockCount source)))
  · intro s hs
    have hp : PutsOut c (t.render c) source := ⟨⟨t, h, rfl⟩, opened_each_eq source ▸ he⟩
    exact ⟨(hp.run hs).compiles, (hp.run hs).resolves_iff⟩

/-- A block that is dropped inside one that is kept. -/
theorem render_of_resolves_nested :
    let c : Context := ⟨[("a", .bool true), ("b", .string "x")]⟩
    let result := tagText "#if a" ++ "1" ++ tagText "b" ++ tagText "/if"
    Resolves c (tagText "#if a" ++ "1" ++ tagText "#unless b" ++ "2" ++ tagText "/unless" ++ tagText "b" ++
      tagText "/if") result ∧
    ∃ t', compile result = .ok t' ∧ t'.render c = "1x" := by
  intro c result
  have hp : pieces (tagText "#if a" ++ "1" ++ tagText "#unless b" ++ "2" ++ tagText "/unless" ++
      tagText "b" ++ tagText "/if").toList =
      [.tag "#if a".toList, .literal ['1']] ++ .tag "#unless b".toList ::
        ([.literal ['2']] ++ .tag "/unless".toList :: [.tag ['b'], .tag "/if".toList]) := by decide +kernel
  have h : compile (tagText "#if a" ++ "1" ++ tagText "#unless b" ++ "2" ++ tagText "/unless" ++
      tagText "b" ++ tagText "/if") =
      .ok ⟨[.block .whenTrue "a" [.text "1", .block .whenFalse "b" [.text "2"], .variable "b"]]⟩ := by
    rw [compile_eq_ok_iff_grow, marks, hp]
    rfl
  have he : opened .each (tokens (tagText "#if a" ++ "1" ++ tagText "#unless b" ++ "2" ++ tagText "/unless" ++
      tagText "b" ++ tagText "/if")) = 0 := by decide +kernel
  have ho : (Piece.tag "#unless b".toList).mark = .opening .whenFalse "b" := rfl
  have hstep : Resolves c _ result :=
    .block hp ho rfl (by decide) (by simp [Mark.isBlock]) (by decide +kernel)
  obtain ⟨t', ht', hr⟩ := ((render_of_resolves h he c).2 _ (.single hstep)).1
  refine ⟨hstep, t', ht', hr.trans ?_⟩
  decide +kernel

end Screenplay.Template
