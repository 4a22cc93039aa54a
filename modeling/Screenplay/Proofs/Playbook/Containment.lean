/-
No text of an author leaves the string or the comment that it is put into. A
typing says of the names of a template in which mode their text stays, which of
them may be asked for, and which are lists of numbered items; `modeAfter?` checks a
tree against it, without looking at any value, and gives the mode behind the tree.

The check is sound for two renderings at once (`Alike.sameCode_renderNodes`): in
scopes that differ only in the texts of names, the scanner goes through both
renderings in the same modes and keeps the same code. The five scripts pass the
check, and the contexts of two cases with the same outline are alike, so their
scripts differ in bodies only (`render_contained`).
-/
import Screenplay.Proofs.Playbook.Context
import Screenplay.Proofs.Playbook.Scanner
import Screenplay.Proofs.Playbook.Source
import Screenplay.Proofs.Spec.Validity

namespace Screenplay.Playbook

open Screenplay.Template (Node Scope Helper holds textOf renderNode renderNodes currentItem joinTexts)

/-! ## The check -/

/-- What a script may do with the names that it knows. -/
structure Typing where
  /-- Names whose text may stand in a mode. -/
  within : List (String × Mode)
  /-- Names that may be asked for. -/
  asked : List String
  /-- Names of lists of numbered items. -/
  lists : List String

/-- Inside a numbered item. -/
def Typing.item : Typing := ⟨[("number", .comment), ("text", .comment)], [], []⟩

/-- In the context of a case. -/
def Typing.case : Typing where
  within := [("screen", .quoted), ("testName", .quoted), ("tag", .quoted), ("route", .quoted),
    ("description", .comment)]
  asked := ["tag", "description", "route", "skipIfEmpty"]
  lists := ["steps", "assertions"]

/-- The mode behind a text. -/
def modeBehind? (m : Mode) (s : List Char) : Option Mode := (scan m s).map (·.1)

mutual

/-- The mode behind a node, whatever text its names stand for; none if the check fails. A block
leaves the mode as it was, so it does not matter how often its body is put out. -/
def modeAfter? (τ : Typing) (m : Mode) : Node → Option Mode
  | .text t => modeBehind? m t.toList
  | .variable name => Option.guard (fun m => τ.within.contains (name, m)) m
  | .helper h _ => Option.guard (fun m => h == .kebabCase && m == .quoted) m
  | .block .each name body => Option.guard (fun m => τ.lists.contains name && modeAfterAll? .item m body == some m) m
  | .block _ name body => Option.guard (fun m => τ.asked.contains name && modeAfterAll? τ m body == some m) m

def modeAfterAll? (τ : Typing) (m : Mode) : List Node → Option Mode
  | [] => some m
  | n :: ns => (modeAfter? τ m n).bind fun m' => modeAfterAll? τ m' ns

end

/-! ## The scripts pass -/

theorem modeBehind?_append (m : Mode) (s t : List Char) :
    modeBehind? m (s ++ t) = (modeBehind? m s).bind fun m' => modeBehind? m' t := by
  rw [modeBehind?, scan_append_eq, Option.map_bind, modeBehind?, Option.bind_map]
  congr 1
  funext p
  rw [Function.comp_apply, Function.comp_apply, Option.map_map]
  rfl

theorem modeAfterAll?_append (τ : Typing) (m : Mode) (ns ms : List Node) :
    modeAfterAll? τ m (ns ++ ms) = (modeAfterAll? τ m ns).bind fun m' => modeAfterAll? τ m' ms := by
  induction ns generalizing m with
  | nil => rfl
  | cons n ns ih => simp only [List.cons_append, modeAfterAll?, ih, Option.bind_assoc]

theorem modeAfterAll?_joinTexts (τ : Typing) (m : Mode) (ns : List Node) :
    modeAfterAll? τ m (joinTexts ns) = modeAfterAll? τ m ns := by
  induction ns generalizing m with
  | nil => rfl
  | cons n ns ih =>
    cases n with
    | text s =>
      rw [joinTexts]
      split
      · next t others h =>
        have hns := fun m => ih m
        simp only [h] at hns
        simp only [modeAfterAll?, ← hns, modeAfter?, String.toList_append, modeBehind?_append, Option.bind_assoc]
      · simp only [modeAfterAll?, ih]
    | _ => simp only [joinTexts, modeAfterAll?, ih]

/-- Lines of code are checked line by line. -/
theorem modeAfter?_code (τ : Typing) (m : Mode) (lines : List String) :
    modeAfter? τ m (code lines) = modeBehind? m (lines.flatMap fun line => line.toList ++ ['\n']) := by
  rw [code, modeAfter?, toList_lines]

/-- All scripts pass the check, from code to code. -/
theorem modeAfterAll?_script (flow : Flow) : modeAfterAll? .case .code (script flow) = some .code := by
  cases flow <;>
    simp only [script, playwrightTest, formSubmission, navigation, modalDialog, listFilter, authFlow, openRoute,
      openInstead, whenGiven, whenMissing, steps, expectations, numbered, modeAfterAll?_joinTexts,
      modeAfterAll?_append, modeAfterAll?, modeAfter?_code, modeAfter?, List.flatMap_cons, List.flatMap_nil,
      String.toList_append]
  -- The literals are turned into their characters one by one; the kernel would decode them at length.
  all_goals repeat rw [String.toList_ofList]
  all_goals decide +kernel

/-! ## Two renderings -/

/-- Both texts lead from one mode to another, and are the same without their bodies. -/
def SameCode (m m' : Mode) (s t : String) : Prop :=
  ∃ kept, scan m s.toList = some (m', kept) ∧ scan m t.toList = some (m', kept)

theorem SameCode.empty (m : Mode) : SameCode m m "" "" := ⟨[], rfl, rfl⟩

theorem SameCode.append {m m' m'' : Mode} {s s' t t' : String} (hs : SameCode m m' s s')
    (ht : SameCode m' m'' t t') : SameCode m m'' (s ++ t) (s' ++ t') := by
  obtain ⟨k, hk, hk'⟩ := hs
  obtain ⟨l, hl, hl'⟩ := ht
  refine ⟨k ++ l, ?_, ?_⟩
  · rw [String.toList_append]
    exact scan_append hk hl
  · rw [String.toList_append]
    exact scan_append hk' hl'

theorem SameCode.join {α : Type} {m : Mode} {f g : α → String} {l l' : List α} (hlen : l.length = l'.length)
    (h : ∀ a ∈ l, ∀ b ∈ l', SameCode m m (f a) (g b)) :
    SameCode m m (String.join (l.map f)) (String.join (l'.map g)) := by
  induction l generalizing l' with
  | nil =>
    rw [List.length_nil] at hlen
    rw [List.eq_nil_of_length_eq_zero hlen.symm]
    simpa using SameCode.empty m
  | cons a l ih =>
    cases l' with
    | nil => cases hlen
    | cons b l' =>
      rw [List.map_cons, List.map_cons, String.join_cons, String.join_cons]
      exact (h a (by simp) b (by simp)).append
        (ih (by simpa using hlen) fun x hx y hy => h x (by simp [hx]) y (by simp [hy]))

/-- The text of a value, if there is one, stays in a mode. -/
def Stays (m : Mode) (v : Option Json) : Prop := scan m (v.elim "" textOf).toList = some (m, [])

instance (m : Mode) (v : Option Json) : Decidable (Stays m v) := inferInstanceAs (Decidable (_ = _))

theorem Stays.sameCode {m : Mode} {v w : Option Json} (hv : Stays m v) (hw : Stays m w) :
    SameCode m m (v.elim "" textOf) (w.elim "" textOf) := ⟨[], hv, hw⟩

/-- A value that has a number and a text, both fit for a comment. -/
structure NumberedItem (j : Json) : Prop where
  number : ∃ v, j.get? "number" = some v ∧ Stays .comment (some v)
  text : ∃ v, j.get? "text" = some v ∧ Stays .comment (some v)

/-- Scopes that a script of this typing cannot tell apart but by the texts of names. -/
structure Alike (τ : Typing) (s s' : Scope) : Prop where
  within : ∀ p ∈ τ.within, Stays p.2 (s.lookup? p.1) ∧ Stays p.2 (s'.lookup? p.1)
  asked : ∀ name ∈ τ.asked, holds (s.lookup? name) = holds (s'.lookup? name)
  lists : ∀ name ∈ τ.lists, ∃ items items', s.lookup? name = some (.array items) ∧
    s'.lookup? name = some (.array items') ∧ items.length = items'.length ∧
    (∀ j ∈ items, NumberedItem j) ∧ ∀ j ∈ items', NumberedItem j

theorem NumberedItem.stays {j : Json} (h : NumberedItem j) (s : Scope) :
    ∀ p ∈ Typing.item.within, Stays p.2 ((s.enter j).lookup? p.1) := by
  obtain ⟨⟨n, hn, hns⟩, ⟨t, ht, hts⟩⟩ := h
  intro p hp
  simp only [Typing.item, List.mem_cons, List.not_mem_nil, or_false] at hp
  rcases hp with rfl | rfl
  · rw [lookup?_enter (by decide) s hn]
    exact hns
  · rw [lookup?_enter (by decide) s ht]
    exact hts

theorem NumberedItem.alike {j j' : Json} (h : NumberedItem j) (h' : NumberedItem j') (s s' : Scope) :
    Alike .item (s.enter j) (s'.enter j') where
  within p hp := ⟨h.stays s p hp, h'.stays s' p hp⟩
  asked _ hname := nomatch hname
  lists _ hname := nomatch hname

mutual

theorem Alike.sameCode_renderNode {τ : Typing} {s s' : Scope} (h : Alike τ s s') {m m' : Mode} :
    ∀ n : Node, modeAfter? τ m n = some m' → SameCode m m' (renderNode s n) (renderNode s' n)
  | .text t, hm => by
    rw [renderNode, renderNode]
    rw [modeAfter?, modeBehind?] at hm
    obtain ⟨⟨last, kept⟩, hk, rfl⟩ := Option.map_eq_some_iff.1 hm
    exact ⟨kept, hk, hk⟩
  | .variable name, hm => by
    rw [renderNode, renderNode]
    rw [modeAfter?] at hm
    obtain ⟨rfl, hmem⟩ := Option.guard_eq_some_iff.1 hm
    obtain ⟨hs, hs'⟩ := h.within (name, m) (by simpa using hmem)
    exact hs.sameCode hs'
  | .helper f name, hm => by
    rw [renderNode, renderNode]
    rw [modeAfter?] at hm
    obtain ⟨rfl, hf⟩ := Option.guard_eq_some_iff.1 hm
    simp only [Bool.and_eq_true, beq_iff_eq] at hf
    obtain ⟨rfl, rfl⟩ := hf
    -- Whatever the name stands for, an identifier stays in the string.
    have hkebab : ∀ v : Option Json,
        scan .quoted (v.elim "" fun v => Template.kebabCase (textOf v)).toList = some (.quoted, []) := by
      intro v
      cases v with
      | none => rfl
      | some v => exact scan_kebabCase (textOf v)
    exact ⟨[], hkebab _, hkebab _⟩
  | .block .whenTrue name body, hm => by
    rw [renderNode, renderNode]
    rw [modeAfter?] at hm
    · obtain ⟨rfl, hb⟩ := Option.guard_eq_some_iff.1 hm
      simp only [Bool.and_eq_true, List.contains_iff_mem, beq_iff_eq] at hb
      rw [h.asked name hb.1]
      split
      · exact h.sameCode_renderNodes body hb.2
      · exact .empty m
    · nofun
  | .block .whenFalse name body, hm => by
    rw [renderNode, renderNode]
    rw [modeAfter?] at hm
    · obtain ⟨rfl, hb⟩ := Option.guard_eq_some_iff.1 hm
      simp only [Bool.and_eq_true, List.contains_iff_mem, beq_iff_eq] at hb
      rw [h.asked name hb.1]
      split
      · exact .empty m
      · exact h.sameCode_renderNodes body hb.2
    · nofun
  | .block .each name body, hm => by
    rw [renderNode, renderNode]
    rw [modeAfter?] at hm
    obtain ⟨rfl, hb⟩ := Option.guard_eq_some_iff.1 hm
    simp only [Bool.and_eq_true, List.contains_iff_mem, beq_iff_eq] at hb
    obtain ⟨items, items', hi, hi', hlen, hitems, hitems'⟩ := h.lists name hb.1
    rw [hi, hi']
    exact .join hlen fun a ha b hb' =>
      ((hitems a ha).alike (hitems' b hb') s s').sameCode_renderNodes body hb.2

/-- **The check is sound.** Nodes that pass it are rendered alike but for bodies. -/
theorem Alike.sameCode_renderNodes {τ : Typing} {s s' : Scope} (h : Alike τ s s') {m m' : Mode} :
    ∀ ns : List Node, modeAfterAll? τ m ns = some m' → SameCode m m' (renderNodes s ns) (renderNodes s' ns)
  | [], hm => by
    rw [renderNodes, renderNodes]
    cases hm
    exact .empty m
  | n :: ns, hm => by
    rw [renderNodes, renderNodes]
    obtain ⟨next, hn, hns⟩ := Option.bind_eq_some_iff.1 hm
    exact (h.sameCode_renderNode n hn).append (h.sameCode_renderNodes ns hns)

end

/-! ## The contexts of two cases -/

theorem stays_tag (p : Priority) : Stays .quoted (some (.string ("@" ++ p.name))) := by
  cases p <;> decide +kernel

/-- The texts of a case stay where a script puts them. -/
theorem stays_context (screen : Screen) (case : Case) :
    ∀ p ∈ Typing.case.within, Stays p.2 (Scope.lookup? ⟨[], context screen case⟩ p.1) := by
  intro p hp
  simp only [Typing.case, List.mem_cons, List.not_mem_nil, or_false] at hp
  rcases hp with rfl | rfl | rfl | rfl | rfl
  · rw [lookup?_root (by decide), get?_screen]
    exact scan_quote screen.name
  · rw [lookup?_root (by decide), get?_testName]
    exact scan_quote case.name
  · rw [lookup?_root (by decide), get?_tag]
    cases case.priority with
    | none => rfl
    | some p => exact stays_tag p
  · rw [lookup?_root (by decide), get?_route]
    cases screen.route with
    | none => rfl
    | some r => exact scan_quote r
  · rw [lookup?_root (by decide), get?_description]
    exact scan_comment case.description

theorem exists_numberedItems (l : List String) :
    ∃ items, numberedItems l = .array items ∧ items.length = l.length ∧ ∀ j ∈ items, NumberedItem j := by
  refine ⟨_, rfl, by simp, fun j hj => ?_⟩
  obtain ⟨⟨text, i⟩, -, rfl⟩ := List.mem_map.1 hj
  exact ⟨⟨.nat (i + 1), rfl, scan_repr (i + 1)⟩, ⟨.string (comment text), rfl, scan_comment text⟩⟩

/-- Contexts are alike when they have as many items, and agree on what a script asks for. -/
theorem alike_context {screen screen' : Screen} {case case' : Case}
    (hsteps : case.steps.length = case'.steps.length)
    (hassertions : case.assertions.length = case'.assertions.length)
    (hasked : ∀ name ∈ Typing.case.asked, holds (Scope.lookup? ⟨[], context screen case⟩ name) =
      holds (Scope.lookup? ⟨[], context screen' case'⟩ name)) :
    Alike .case ⟨[], context screen case⟩ ⟨[], context screen' case'⟩ where
  within p hp := ⟨stays_context screen case p hp, stays_context screen' case' p hp⟩
  asked := hasked
  lists name hname := by
    simp only [Typing.case, List.mem_cons, List.not_mem_nil, or_false] at hname
    rcases hname with rfl | rfl
    · obtain ⟨items, he, hl, hi⟩ := exists_numberedItems case.steps
      obtain ⟨items', he', hl', hi'⟩ := exists_numberedItems case'.steps
      refine ⟨items, items', ?_, ?_, by rw [hl, hl', hsteps], hi, hi'⟩
      · rw [lookup?_root (by decide), get?_steps, he]
      · rw [lookup?_root (by decide), get?_steps, he']
    · obtain ⟨items, he, hl, hi⟩ := exists_numberedItems case.assertions
      obtain ⟨items', he', hl', hi'⟩ := exists_numberedItems case'.assertions
      refine ⟨items, items', ?_, ?_, by rw [hl, hl', hassertions], hi, hi'⟩
      · rw [lookup?_root (by decide), get?_assertions, he]
      · rw [lookup?_root (by decide), get?_assertions, he']

/-- What two cases have in common whose scripts differ in bodies only. -/
structure SameOutline (screen : Screen) (case : Case) (screen' : Screen) (case' : Case) : Prop where
  steps : case.steps.length = case'.steps.length
  assertions : case.assertions.length = case'.assertions.length
  route : screen.route.isSome = screen'.route.isSome
  description : case.description = "" ↔ case'.description = ""
  priority : case.priority.isSome = case'.priority.isSome
  skipIfEmpty : case.skipIfEmpty = case'.skipIfEmpty

theorem quote_ne_empty {s : String} (h : ∃ c ∈ s.toList, Text.isBlank c = false) : quote s ≠ "" := by
  obtain ⟨c, hc, hb⟩ := h
  have hq : quoteChar c ≠ [] := by
    have hr : c ≠ '\r' := by rintro rfl; revert hb; decide
    unfold quoteChar
    repeat' split
    all_goals simp_all
  obtain ⟨x, hx⟩ := List.exists_mem_of_ne_nil _ hq
  have hmem : x ∈ (quote s).toList := by
    rw [quote, String.toList_ofList]
    exact List.mem_flatMap.2 ⟨c, hc, hx⟩
  intro he
  rw [he] at hmem
  cases hmem

theorem holds_route {screen : Screen} (h : screen.Valid) (case : Case) :
    holds ((context screen case).get? "route") = screen.route.isSome := by
  rw [get?_route]
  cases hr : screen.route with
  | none => rfl
  | some r => simpa [holds] using quote_ne_empty (h.exists_of_route hr)

theorem holds_description (screen : Screen) {case : Case} (h : case.Valid) :
    holds ((context screen case).get? "description") = decide (case.description ≠ "") := by
  rw [get?_description]
  by_cases hd : case.description = ""
  · rw [hd]
    rfl
  · obtain ⟨x, hx, hb⟩ := h.exists_of_description hd
    have hne : comment case.description ≠ "" := fun he => by
      rw [comment, Text.squeezed_eq_empty_iff] at he
      rw [he x hx] at hb
      cases hb
    simpa [holds, hd] using hne

theorem holds_tag (screen : Screen) (case : Case) :
    holds ((context screen case).get? "tag") = case.priority.isSome := by
  rw [get?_tag]
  cases case.priority with
  | none => rfl
  | some p => cases p <;> rfl

theorem SameOutline.alike {screen screen' : Screen} {case case' : Case}
    (h : SameOutline screen case screen' case') (hs : screen.Valid) (hc : case.Valid) (hs' : screen'.Valid)
    (hc' : case'.Valid) : Alike .case ⟨[], context screen case⟩ ⟨[], context screen' case'⟩ := by
  refine alike_context h.steps h.assertions fun name hname => ?_
  simp only [Typing.case, List.mem_cons, List.not_mem_nil, or_false] at hname
  rcases hname with rfl | rfl | rfl | rfl
  · rw [lookup?_root (by decide), lookup?_root (by decide),
      holds_tag, holds_tag, h.priority]
  · rw [lookup?_root (by decide), lookup?_root (by decide),
      holds_description screen hc, holds_description screen' hc']
    simp [h.description]
  · rw [lookup?_root (by decide), lookup?_root (by decide),
      holds_route hs, holds_route hs', h.route]
  · rw [lookup?_root (by decide), lookup?_root (by decide),
      get?_skipIfEmpty, get?_skipIfEmpty, h.skipIfEmpty]

/-- **Scripts contain their texts.** No line of a script ends inside a string, and the script ends in
code, whatever the texts of the case are; and the scripts of two valid cases with the same outline are
the same code, with other strings and comments. -/
theorem render_contained (flow : Flow) :
    (∀ screen case, ∃ kept, scan .code (render flow screen case).toList = some (.code, kept)) ∧
    ∀ screen case screen' case', screen.Valid → case.Valid → screen'.Valid → case'.Valid →
      SameOutline screen case screen' case' →
      ∃ kept, scan .code (render flow screen case).toList = some (.code, kept) ∧
        scan .code (render flow screen' case').toList = some (.code, kept) := by
  refine ⟨fun screen case => ?_, fun screen case screen' case' hs hc hs' hc' h => ?_⟩
  · have halike := @alike_context screen screen case case rfl rfl fun _ _ => rfl
    obtain ⟨kept, hk, -⟩ := halike.sameCode_renderNodes (script flow) (modeAfterAll?_script flow)
    exact ⟨kept, hk⟩
  · exact (h.alike hs hc hs' hc').sameCode_renderNodes (script flow) (modeAfterAll?_script flow)

/-- A case that tries every way out of a string and of a comment, beside a plain one. -/
theorem render_contained_hostile :
    let plain : CaseDraft := ⟨some "opens", some "a note", some ["open it"], some ["it opens"], none, none, none⟩
    let hostile : CaseDraft := ⟨some "\\", some "*/\r\n'", some ["\x7b\x7b/each\x7d\x7d\n'"], some ["\u2028//"],
      none, none, none⟩
    let page : Draft := ⟨some "Help", some "Answers", some "/help", some [plain]⟩
    let trap : Draft := ⟨some "', () => \x7b //", some "*/", some "\\'\n\r\\", some [hostile]⟩
    validate page = .ok page.normal ∧ validate trap = .ok trap.normal ∧
      ∃ kept, scan .code (render .navigation page.normal plain.normal).toList = some (.code, kept) ∧
        scan .code (render .navigation trap.normal hostile.normal).toList = some (.code, kept) := by
  intro plain hostile page trap
  have hp : validate page = .ok page.normal := if_pos (by decide +kernel)
  have ht : validate trap = .ok trap.normal := if_pos (by decide +kernel)
  have hpc : plain.normal.Valid := ⟨page.normal, ⟨page, hp⟩, by simp [page, Draft.normal]⟩
  have htc : hostile.normal.Valid := ⟨trap.normal, ⟨trap, ht⟩, by simp [trap, Draft.normal]⟩
  refine ⟨hp, ht, (render_contained .navigation).2 _ _ _ _ ⟨page, hp⟩ hpc ⟨trap, ht⟩ htc ?_⟩
  exact ⟨rfl, rfl, by decide +kernel, by decide +kernel, rfl, rfl⟩

end Screenplay.Playbook
