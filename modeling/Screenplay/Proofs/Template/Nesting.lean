/-
When a template has a tree, and which fault it has otherwise.

`WellNested` says what good nesting is without a stack, `Completable` that
tokens can still become a template, and `Fault` which fault a template has: the
first construct that is not closed as often as it is opened, and if there is
none, what the first token does wrong that makes the tokens before it
incompletable. `compile_verdict` says that `compile` fails exactly so, and never
with a block that is left open at the end.

In between stands the walk over the open blocks (`Token.step`, `walk`), which is
what `nest` does beside building nodes (`nest_of_walk`). `Pending` is its
invariant: what the tokens read so far have left open.
-/
import Screenplay.Template.Render

namespace Screenplay.Template

/-! ## Nesting -/

def Token.isBlockTag : Token → Bool
  | .openBlock _ _ _ | .closeBlock _ _ => true
  | _ => false

/-- The opening of a block, without a name. -/
def Token.isNameless : Token → Bool
  | .openBlock _ name _ => name.isEmpty
  | _ => false

/-- Each close belongs to an opening of its own construct before it, and blocks do not overlap. -/
inductive WellNested : List Token → Prop
  | nil : WellNested []
  | leaf {tok ts} : tok.isBlockTag = false → WellNested ts → WellNested (tok :: ts)
  | block {c name o o' inner ts} : WellNested inner → WellNested ts →
      WellNested (.openBlock c name o :: (inner ++ .closeBlock c o' :: ts))

/-- The tokens of a template that has a tree. -/
structure Orderly (ts : List Token) : Prop where
  named : ∀ tok ∈ ts, tok.isNameless = false
  nested : WellNested ts

/-- Tokens that become the tokens of a template if the right ones follow. -/
def Completable (ts : List Token) : Prop := ∃ rest, Orderly (ts ++ rest)

/-! ## Faults -/

/-- What is wrong with a token behind tokens that could be completed. -/
inductive Offence (before : List Token) : Token → SyntaxError → Prop
  | nameless {c o} : Offence before (.openBlock c "" o) (.missingName c o)
  /-- No block is open. -/
  | nothingOpen {c o} : WellNested before → Offence before (.closeBlock c o) (.unexpectedClose c o)
  /-- The innermost open block is of another construct. -/
  | otherOpen {outer d name o' inside c o} : before = outer ++ .openBlock d name o' :: inside →
      WellNested inside → d ≠ c → Offence before (.closeBlock c o) (.misnested d c o)

/-- Why tokens are not those of a template. -/
inductive Fault (ts : List Token) : SyntaxError → Prop
  /-- The first construct that is not closed as often as it is opened, whatever else is wrong. -/
  | unbalanced {earlier c later} : Construct.all = earlier ++ c :: later →
      (∀ d ∈ earlier, opened d ts = closed d ts) → opened c ts ≠ closed c ts →
      Fault ts (.unbalanced c (opened c ts) (closed c ts))
  /-- The first token that cannot follow the tokens before it. -/
  | misplaced {before tok after fault} : (∀ c, opened c ts = closed c ts) →
      ts = before ++ tok :: after → Completable before → ¬ Completable (before ++ [tok]) →
      Offence before tok fault → Fault ts fault

/-! ## Well nested tokens -/

theorem WellNested.append {ts us : List Token} (ht : WellNested ts) (hu : WellNested us) :
    WellNested (ts ++ us) := by
  induction ht with
  | nil => exact hu
  | leaf hl _ ih => exact .leaf hl ih
  | block hi _ _ ih =>
    rw [List.cons_append, List.append_assoc, List.cons_append]
    exact .block hi ih

theorem orderly_nil : Orderly [] := ⟨by simp, .nil⟩

theorem Orderly.append {ts us : List Token} (ht : Orderly ts) (hu : Orderly us) : Orderly (ts ++ us) :=
  ⟨fun tok h => (List.mem_append.1 h).elim (ht.named tok) (hu.named tok), ht.nested.append hu.nested⟩

theorem Orderly.block {c : Construct} {name : String} {o o' : Nat} {inner : List Token}
    (hn : name ≠ "") (hi : Orderly inner) :
    Orderly (.openBlock c name o :: (inner ++ [.closeBlock c o'])) := by
  refine ⟨fun tok h => ?_, .block hi.nested .nil⟩
  simp only [List.mem_cons, List.mem_append, List.not_mem_nil, or_false] at h
  rcases h with rfl | h | rfl
  · simpa [Token.isNameless] using hn
  · exact hi.named tok h
  · rfl

theorem Orderly.leaf {tok : Token} (h : tok.isBlockTag = false) : Orderly [tok] := by
  refine ⟨fun t ht => ?_, .leaf h .nil⟩
  rw [List.mem_singleton.1 ht]
  cases tok <;> first | rfl | cases h

/-! ## The walk over the open blocks -/

/-- What a token does to the open blocks, innermost first. -/
def Token.step (blocks : List Construct) : Token → Except SyntaxError (List Construct)
  | .openBlock c name o => if name.isEmpty then .error (.missingName c o) else .ok (c :: blocks)
  | .closeBlock c o =>
    match blocks with
    | [] => .error (.unexpectedClose c o)
    | d :: outer => if d = c then .ok outer else .error (.misnested d c o)
  | _ => .ok blocks

def walk (blocks : List Construct) (ts : List Token) : Except SyntaxError (List Construct) :=
  ts.foldlM Token.step blocks

@[simp] theorem walk_nil (blocks : List Construct) : walk blocks [] = .ok blocks := rfl

theorem walk_cons (blocks : List Construct) (tok : Token) (ts : List Token) :
    walk blocks (tok :: ts) = (tok.step blocks).bind (walk · ts) := rfl

theorem walk_append (blocks : List Construct) (ts us : List Token) :
    walk blocks (ts ++ us) = (walk blocks ts).bind (walk · us) := by
  unfold walk
  rw [List.foldlM_append]
  rfl

theorem walk_cons_eq_ok_iff {blocks next : List Construct} {tok : Token} {ts : List Token} :
    walk blocks (tok :: ts) = .ok next ↔
      ∃ inside, tok.step blocks = .ok inside ∧ walk inside ts = .ok next := by
  rw [walk_cons]
  cases tok.step blocks with
  | error e => exact ⟨nofun, fun ⟨_, h, _⟩ => nomatch h⟩
  | ok inside => exact ⟨fun h => ⟨inside, rfl, h⟩, fun ⟨_, he, h⟩ => by cases he; exact h⟩

theorem walk_append_eq_ok_iff {blocks next : List Construct} {ts us : List Token} :
    walk blocks (ts ++ us) = .ok next ↔
      ∃ inside, walk blocks ts = .ok inside ∧ walk inside us = .ok next := by
  rw [walk_append]
  cases walk blocks ts with
  | error e => exact ⟨nofun, fun ⟨_, h, _⟩ => nomatch h⟩
  | ok inside => exact ⟨fun h => ⟨inside, rfl, h⟩, fun ⟨_, he, h⟩ => by cases he; exact h⟩

theorem step_leaf {tok : Token} (h : tok.isBlockTag = false) (blocks : List Construct) :
    tok.step blocks = .ok blocks := by
  cases tok <;> first | rfl | cases h

theorem step_openBlock {name : String} (hn : name ≠ "") (c : Construct) (o : Nat) (blocks : List Construct) :
    (Token.openBlock c name o).step blocks = .ok (c :: blocks) := by
  simp [Token.step, hn]

theorem step_closeBlock (c : Construct) (o : Nat) (blocks : List Construct) :
    (Token.closeBlock c o).step (c :: blocks) = .ok blocks := by
  simp [Token.step]

theorem walk_singleton (blocks : List Construct) (tok : Token) : walk blocks [tok] = tok.step blocks := by
  rw [walk_cons]
  cases tok.step blocks <;> rfl

theorem walk_orderly {ts : List Token} (h : Orderly ts) (blocks : List Construct) :
    walk blocks ts = .ok blocks := by
  obtain ⟨hn, hw⟩ := h
  induction hw generalizing blocks with
  | nil => rfl
  | leaf hl _ ih =>
    exact walk_cons_eq_ok_iff.2 ⟨blocks, step_leaf hl blocks, ih blocks fun tok ht => hn tok (by simp [ht])⟩
  | @block c name o o' inner ts _ _ ihi iht =>
    have hname : name ≠ "" := by simpa [Token.isNameless] using hn (.openBlock c name o) (by simp)
    have hinner := ihi (c :: blocks) fun tok ht => hn tok (by simp [ht])
    have hts := iht blocks fun tok ht => hn tok (by simp [ht])
    have hclose := walk_cons_eq_ok_iff.2 ⟨blocks, step_closeBlock c o' blocks, hts⟩
    exact walk_cons_eq_ok_iff.2 ⟨c :: blocks, step_openBlock hname c o blocks,
      walk_append_eq_ok_iff.2 ⟨c :: blocks, hinner, hclose⟩⟩

/-- A walk that fails does so at one token. -/
theorem walk_eq_error_iff {blocks : List Construct} {ts : List Token} {fault : SyntaxError} :
    walk blocks ts = .error fault ↔ ∃ before tok after inside, ts = before ++ tok :: after ∧
      walk blocks before = .ok inside ∧ tok.step inside = .error fault := by
  constructor
  · intro h
    induction ts generalizing blocks with
    | nil => cases h
    | cons tok ts ih =>
      rw [walk_cons] at h
      cases hs : tok.step blocks with
      | error e =>
        rw [hs] at h
        cases h
        exact ⟨[], tok, ts, blocks, rfl, rfl, hs⟩
      | ok next =>
        rw [hs] at h
        obtain ⟨before, bad, after, inside, rfl, hb, hf⟩ := ih h
        exact ⟨tok :: before, bad, after, inside, rfl, by rw [walk_cons, hs]; exact hb, hf⟩
  · rintro ⟨before, tok, after, inside, rfl, hb, hf⟩
    rw [walk_append, hb]
    show walk inside (tok :: after) = _
    rw [walk_cons, hf]
    rfl

/-! ## What is left open -/

/-- The tokens leave these blocks open, innermost first: behind each opening stands what is
well nested in it. -/
inductive Pending : List Token → List Construct → Prop
  | outside {ts} : Orderly ts → Pending ts []
  | inside {ts blocks c name o inner} : Pending ts blocks → name ≠ "" → Orderly inner →
      Pending (ts ++ .openBlock c name o :: inner) (c :: blocks)

theorem Pending.append {ts us : List Token} {blocks : List Construct} (h : Pending ts blocks)
    (hu : Orderly us) : Pending (ts ++ us) blocks := by
  cases h with
  | outside ht => exact .outside (ht.append hu)
  | inside hp hn hi =>
    rw [List.append_assoc, List.cons_append]
    exact .inside hp hn (hi.append hu)

theorem Pending.close {ts : List Token} {c : Construct} {blocks : List Construct}
    (h : Pending ts (c :: blocks)) (o : Nat) : Pending (ts ++ [.closeBlock c o]) blocks := by
  cases h with
  | inside hp hn hi =>
    rw [List.append_assoc, List.cons_append]
    exact hp.append (.block hn hi)

theorem Pending.step {ts : List Token} {tok : Token} {blocks next : List Construct}
    (h : Pending ts blocks) (hs : tok.step blocks = .ok next) : Pending (ts ++ [tok]) next := by
  cases tok with
  | openBlock c name o =>
    simp only [Token.step] at hs
    split at hs
    · cases hs
    · next hn =>
      cases hs
      exact .inside h (by simpa using hn) orderly_nil
  | closeBlock c o =>
    simp only [Token.step] at hs
    split at hs
    · cases hs
    · split at hs
      · next hd => cases hs; subst hd; exact h.close o
      · cases hs
  | _ => cases hs; exact h.append (.leaf rfl)

theorem Pending.walk {ts us : List Token} {blocks next : List Construct} (h : Pending ts blocks)
    (hw : walk blocks us = .ok next) : Pending (ts ++ us) next := by
  induction us generalizing ts blocks with
  | nil => cases hw; simpa using h
  | cons tok us ih =>
    obtain ⟨inside, hs, hw⟩ := walk_cons_eq_ok_iff.1 hw
    have := ih (h.step hs) hw
    rwa [List.append_assoc] at this

theorem walk_of_pending {ts : List Token} {blocks : List Construct} (h : Pending ts blocks) :
    Template.walk [] ts = .ok blocks := by
  induction h with
  | outside ht => exact walk_orderly ht []
  | @inside ts blocks c name o inner _ hn hi ih =>
    have hinner := walk_orderly hi (c :: blocks)
    exact walk_append_eq_ok_iff.2 ⟨blocks, ih,
      walk_cons_eq_ok_iff.2 ⟨c :: blocks, step_openBlock hn c o blocks, hinner⟩⟩

/-- The walk ends with the blocks that are left open. -/
theorem walk_eq_ok_iff {ts : List Token} {blocks : List Construct} :
    walk [] ts = .ok blocks ↔ Pending ts blocks :=
  ⟨fun h => by simpa using (Pending.outside orderly_nil).walk h, walk_of_pending⟩

theorem orderly_iff {ts : List Token} : Orderly ts ↔ walk [] ts = .ok [] := by
  rw [walk_eq_ok_iff]
  exact ⟨.outside, fun h => by cases h with | outside ht => exact ht⟩

theorem Pending.orderly_append {ts us : List Token} {blocks : List Construct} (h : Pending ts blocks)
    (hu : Orderly us) : Orderly (ts ++ us ++ blocks.map (.closeBlock · 0)) := by
  induction h generalizing us with
  | outside ht => simpa using ht.append hu
  | @inside ts blocks c name o inner _ hn hi ih =>
    have hb : Orderly (.openBlock c name o :: (inner ++ us ++ [.closeBlock c 0])) := .block hn (hi.append hu)
    simpa using ih hb

/-- Tokens can be completed exactly when the walk does not fail on them. -/
theorem completable_iff {ts : List Token} : Completable ts ↔ ∃ blocks, walk [] ts = .ok blocks := by
  constructor
  · rintro ⟨rest, h⟩
    obtain ⟨blocks, hw, -⟩ := walk_append_eq_ok_iff.1 (walk_orderly h [])
    exact ⟨blocks, hw⟩
  · rintro ⟨blocks, h⟩
    exact ⟨_, by simpa using (walk_eq_ok_iff.1 h).orderly_append orderly_nil⟩

theorem Pending.named {ts : List Token} {blocks : List Construct} (h : Pending ts blocks) :
    ∀ tok ∈ ts, tok.isNameless = false := by
  obtain ⟨rest, ho⟩ := completable_iff.2 ⟨blocks, walk_of_pending h⟩
  exact fun tok ht => ho.named tok (List.mem_append_left _ ht)

theorem offence_iff {before : List Token} {tok : Token} {blocks : List Construct} {fault : SyntaxError}
    (h : walk [] before = .ok blocks) : Offence before tok fault ↔ tok.step blocks = .error fault := by
  have hp := walk_eq_ok_iff.1 h
  constructor
  · intro ho
    cases ho with
    | nameless => rfl
    | nothingOpen hw =>
      have := walk_orderly ⟨hp.named, hw⟩ []
      rw [h] at this
      cases this
      rfl
    | @otherOpen outer d name o' inside c o he hw hne =>
      subst he
      have hname : name ≠ "" := by simpa [Token.isNameless] using hp.named (.openBlock d name o') (by simp)
      have hin : Orderly inside := ⟨fun tok ht => hp.named tok (by simp [ht]), hw⟩
      obtain ⟨st, -, h⟩ := walk_append_eq_ok_iff.1 h
      obtain ⟨opened, hs, h⟩ := walk_cons_eq_ok_iff.1 h
      rw [step_openBlock hname] at hs
      cases hs
      rw [walk_orderly hin] at h
      cases h
      simp [Token.step, hne]
  · intro hs
    cases tok with
    | openBlock c name o =>
      simp only [Token.step] at hs
      split at hs
      · next hn =>
        cases hs
        rw [String.isEmpty_iff.1 hn]
        exact .nameless
      · cases hs
    | closeBlock c o =>
      cases hp with
      | outside ho => cases hs; exact .nothingOpen ho.nested
      | @inside ts outer d name o' inner _ _ hi =>
        simp only [Token.step] at hs
        split at hs
        · cases hs
        · next hne => cases hs; exact .otherOpen rfl hi.nested hne
    | _ => cases hs

theorem count_of_step {tok : Token} {blocks next : List Construct} (h : tok.step blocks = .ok next)
    (c : Construct) : blocks.count c + opened c [tok] = next.count c + closed c [tok] := by
  cases tok with
  | openBlock d name o =>
    simp only [Token.step] at h
    split at h
    · cases h
    · cases h
      by_cases hd : d = c <;> simp [opened, closed, Token.opens, Token.closes, hd]
  | closeBlock d o =>
    cases blocks with
    | nil => cases h
    | cons e outer =>
      simp only [Token.step] at h
      split at h
      · next he =>
        cases h
        subst he
        by_cases hd : e = c <;> simp [opened, closed, Token.opens, Token.closes, hd]
      · cases h
  | _ => cases h; rfl

theorem count_of_walk {ts : List Token} {blocks next : List Construct} (h : walk blocks ts = .ok next)
    (c : Construct) : blocks.count c + opened c ts = next.count c + closed c ts := by
  induction ts generalizing blocks with
  | nil => cases h; rfl
  | cons tok ts ih =>
    obtain ⟨inside, hs, h⟩ := walk_cons_eq_ok_iff.1 h
    have hrest := ih h
    have hone := count_of_step hs c
    simp only [opened, closed, List.countP_cons, List.countP_nil] at hone hrest ⊢
    omega

/-! ## The walk in the reading of a tree -/

/-- The walk decides whether a tree comes out, and a walk that fails gives the fault. -/
theorem nest_of_walk (blocks : List OpenBlock) (done : List Node) (ts : List Token) :
    ((∃ ns, nest blocks done ts = .ok ns) ↔ walk (blocks.map (·.construct)) ts = .ok []) ∧
    ∀ fault, walk (blocks.map (·.construct)) ts = .error fault → nest blocks done ts = .error fault := by
  induction ts generalizing blocks done with
  | nil =>
    refine ⟨?_, nofun⟩
    cases blocks with
    | nil => exact ⟨fun _ => rfl, fun _ => ⟨done.reverse, rfl⟩⟩
    | cons b bs => exact ⟨nofun, nofun⟩
  | cons tok ts ih =>
    rw [walk_cons]
    cases tok with
    | openBlock c name o =>
      by_cases hn : name.isEmpty = true
      · simp only [nest, Token.step, hn, if_true]
        exact ⟨⟨nofun, nofun⟩, fun fault h => by cases h; rfl⟩
      · simp only [nest, Token.step, hn]
        exact ih (⟨c, name, o, done⟩ :: blocks) []
    | closeBlock c o =>
      cases blocks with
      | nil => exact ⟨⟨nofun, nofun⟩, fun fault h => by cases h; rfl⟩
      | cons b bs =>
        by_cases hc : b.construct = c
        · simp only [nest, Token.step, List.map_cons, hc, if_true]
          exact ih bs (pushNode (.block c b.name done.reverse) b.before)
        · simp only [nest, Token.step, List.map_cons, hc, if_false]
          exact ⟨⟨nofun, nofun⟩, fun fault h => by cases h; rfl⟩
    | _ => exact ih blocks _

/-- Tokens that nest into a tree are orderly. -/
theorem nest_isOk_iff {ts : List Token} : (∃ ns, nest [] [] ts = .ok ns) ↔ Orderly ts :=
  (nest_of_walk [] [] ts).1.trans orderly_iff.symm

/-! ## Verdicts -/

theorem imbalance?_eq_none_iff {ts : List Token} :
    imbalance? ts = none ↔ ∀ c, opened c ts = closed c ts := by
  simp only [imbalance?, Option.map_eq_none_iff, List.find?_eq_none]
  constructor
  · intro h c
    have hc : c ∈ Construct.all := by cases c <;> decide
    simpa using h c hc
  · intro h c _
    simp [h c]

theorem imbalance?_eq_some_iff {ts : List Token} {fault : SyntaxError} :
    imbalance? ts = some fault ↔ ∃ earlier c later, Construct.all = earlier ++ c :: later ∧
      (∀ d ∈ earlier, opened d ts = closed d ts) ∧ opened c ts ≠ closed c ts ∧
      fault = .unbalanced c (opened c ts) (closed c ts) := by
  simp only [imbalance?, Option.map_eq_some_iff, List.find?_eq_some_iff_append]
  constructor
  · rintro ⟨c, ⟨hne, earlier, later, hall, he⟩, rfl⟩
    exact ⟨earlier, c, later, hall, fun d hd => by simpa using he d hd, by simpa using hne, rfl⟩
  · rintro ⟨earlier, c, later, hall, he, hne, rfl⟩
    exact ⟨c, ⟨by simpa using hne, earlier, later, hall, fun d hd => by simp [he d hd]⟩, rfl⟩

theorem Orderly.balanced {ts : List Token} (h : Orderly ts) (c : Construct) : opened c ts = closed c ts := by
  simpa using count_of_walk (walk_orderly h []) c

/-- If constructs are closed as often as opened, no walk ends inside a block. -/
theorem eq_nil_of_walk {ts : List Token} {blocks : List Construct} (h : walk [] ts = .ok blocks)
    (hb : ∀ c, opened c ts = closed c ts) : blocks = [] := by
  cases blocks with
  | nil => rfl
  | cons c bs =>
    have := count_of_walk h c
    rw [hb c, List.count_cons_self, List.count_nil] at this
    omega

theorem misplaced_iff {ts : List Token} (hb : ∀ c, opened c ts = closed c ts) {fault : SyntaxError} :
    Fault ts fault ↔ walk [] ts = .error fault := by
  rw [walk_eq_error_iff]
  constructor
  · intro h
    cases h with
    | unbalanced _ _ hne => exact absurd (hb _) hne
    | @misplaced before tok after fault _ hts hc _ ho =>
      obtain ⟨blocks, hw⟩ := completable_iff.1 hc
      exact ⟨before, tok, after, blocks, hts, hw, (offence_iff hw).1 ho⟩
  · rintro ⟨before, tok, after, blocks, hts, hw, hs⟩
    refine .misplaced hb hts (completable_iff.2 ⟨blocks, hw⟩) (fun hc => ?_) ((offence_iff hw).2 hs)
    obtain ⟨next, hn⟩ := completable_iff.1 hc
    obtain ⟨blocks', hw', hn⟩ := walk_append_eq_ok_iff.1 hn
    rw [hw] at hw'
    cases hw'
    rw [walk_singleton, hs] at hn
    cases hn

theorem treeOf_eq_ok_iff {ts : List Token} {ns : List Node} :
    treeOf ts = .ok ns ↔ nest [] [] ts = .ok ns := by
  unfold treeOf
  constructor
  · intro h
    split at h
    · cases h
    · exact h
  · intro h
    rw [imbalance?_eq_none_iff.2 (nest_isOk_iff.1 ⟨ns, h⟩).balanced]
    exact h

theorem treeOf_eq_error_iff {ts : List Token} {fault : SyntaxError} :
    treeOf ts = .error fault ↔ Fault ts fault := by
  unfold treeOf
  cases hi : imbalance? ts with
  | some found =>
    obtain ⟨earlier, c, later, hall, he, hne, rfl⟩ := imbalance?_eq_some_iff.1 hi
    constructor
    · intro h
      cases h
      exact .unbalanced hall he hne
    · intro h
      cases h with
      | unbalanced hall' he' hne' =>
        rw [imbalance?_eq_some_iff.2 ⟨_, _, _, hall', he', hne', rfl⟩] at hi
        cases hi
        rfl
      | misplaced hb => exact absurd (hb c) hne
  | none =>
    have hb := imbalance?_eq_none_iff.1 hi
    rw [misplaced_iff hb]
    cases hw : walk [] ts with
    | error e => simp only [(nest_of_walk [] [] ts).2 e hw, Except.error.injEq]
    | ok blocks =>
      rw [eq_nil_of_walk hw hb] at hw
      obtain ⟨ns, hn⟩ := (nest_of_walk [] [] ts).1.2 hw
      simp [hn]

/-! ## Templates -/

theorem compile_eq_ok_iff {source : String} {t : Template} :
    compile source = .ok t ↔ nest [] [] (tokens source) = .ok t.nodes := by
  rw [← treeOf_eq_ok_iff]
  unfold compile
  cases treeOf (tokens source) with
  | error e => exact ⟨nofun, nofun⟩
  | ok ns =>
    constructor
    · intro h; cases h; rfl
    · intro h; cases h; rfl

theorem compile_eq_error_iff {source : String} {fault : SyntaxError} :
    compile source = .error fault ↔ treeOf (tokens source) = .error fault := by
  unfold compile
  cases treeOf (tokens source) with
  | error e =>
    constructor
    · intro h; cases h; rfl
    · intro h; cases h; rfl
  | ok ns => exact ⟨nofun, nofun⟩

/-- Where the tag of a block stands, as its token has it. -/
def Token.offset? : Token → Option Nat
  | .openBlock _ _ o | .closeBlock _ o => some o
  | _ => none

/-- The tag behind so many pieces of the template begins at this byte. -/
def TagAt (source : String) (count : Nat) (offset : Nat) : Prop :=
  ∃ before inner after, pieces source.toList = before ++ .tag inner :: after ∧
    before.length = count ∧ Text.byteLength (before.flatMap Piece.source) = offset

theorem offset?_classify {inner : List Char} {offset o : Nat} (h : (classify inner offset).offset? = some o) :
    o = offset := by
  unfold classify at h
  split at h
  · dsimp only at h
    split at h
    · split at h
      · cases h; rfl
      · cases h
    · cases h
  · split at h
    · cases h; rfl
    · cases h
  · split at h
    · split at h <;> cases h
    · split at h <;> cases h
    · cases h

/-- A token is that of the piece at its place, which begins where the pieces before it end. -/
theorem piece_of_token {offset : Nat} {ps : List Piece} {before after : List Token} {tok : Token}
    (h : tokensAt offset ps = before ++ tok :: after) :
    ∃ pre p post, ps = pre ++ p :: post ∧ pre.length = before.length ∧
      tok = p.token (offset + Text.byteLength (pre.flatMap Piece.source)) := by
  induction ps generalizing offset before with
  | nil => simp [tokensAt] at h
  | cons p ps ih =>
    rw [tokensAt] at h
    cases before with
    | nil =>
      simp only [List.nil_append, List.cons.injEq] at h
      exact ⟨[], p, ps, rfl, rfl, by simp [h.1]⟩
    | cons b before =>
      simp only [List.cons_append, List.cons.injEq] at h
      obtain ⟨pre, q, post, rfl, hlen, rfl⟩ := ih h.2
      exact ⟨p :: pre, q, post, rfl, by simp [hlen], by simp [Nat.add_assoc]⟩

theorem tagAt_of_offset? {source : String} {before after : List Token} {tok : Token} {o : Nat}
    (h : tokens source = before ++ tok :: after) (ho : tok.offset? = some o) :
    TagAt source before.length o := by
  obtain ⟨pre, p, post, hps, hlen, rfl⟩ := piece_of_token h
  cases p with
  | literal text => cases ho
  | tag inner =>
    refine ⟨pre, inner, post, hps, hlen, ?_⟩
    rw [offset?_classify ho, Nat.zero_add]

/-- **The verdict on a template.** A template compiles exactly when its blocks are named and
well nested; otherwise it has its one fault, which is never a block that is left open, and
the offset of a tag is the byte at which the tag stands. -/
theorem compile_verdict (source : String) :
    ((∃ t, compile source = .ok t) ↔
      (∀ tok ∈ tokens source, tok.isNameless = false) ∧ WellNested (tokens source)) ∧
    (∀ fault, compile source = .error fault ↔ Fault (tokens source) fault) ∧
    (∀ c o, compile source ≠ .error (.unclosed c o)) ∧
    (∀ before tok after o, tokens source = before ++ tok :: after → tok.offset? = some o →
      TagAt source before.length o) := by
  have herror : ∀ fault, compile source = .error fault ↔ Fault (tokens source) fault :=
    fun fault => compile_eq_error_iff.trans treeOf_eq_error_iff
  refine ⟨?_, herror, fun c o h => ?_, fun before tok after o => tagAt_of_offset?⟩
  · constructor
    · rintro ⟨t, h⟩
      have ho := nest_isOk_iff.1 ⟨t.nodes, compile_eq_ok_iff.1 h⟩
      exact ⟨ho.named, ho.nested⟩
    · rintro ⟨hn, hw⟩
      obtain ⟨ns, h⟩ := nest_isOk_iff.2 ⟨hn, hw⟩
      exact ⟨⟨ns⟩, compile_eq_ok_iff.2 h⟩
  · -- No fault is an unclosed block: what is wrong is either a count or a token.
    cases (herror _).1 h with
    | misplaced _ _ _ _ ho => cases ho

end Screenplay.Template
