/-
A template keeps its tree when it is printed and read again
(`compile_printNodes`).

The printer writes every tag that means something in its plain form, with single
spaces, and copies everything else. So the pieces of the printed text are the
pieces of the template with plain tags (`Piece.plain`): they mean the same, they
fit together without seams, and nothing that is copied comes to be read in
another way.
-/
import Screenplay.Proofs.Template.Cutting
import Screenplay.Proofs.Text.Blanks
import Screenplay.Template.Node

namespace Screenplay.Template

open Screenplay.Text

/-! ## Names -/

/-- The code points of the blanks. -/
def blankCodes : List Nat :=
  [0x09, 0x0A, 0x0B, 0x0C, 0x0D, 0x20, 0x85, 0xA0, 0x1680, 0x2000, 0x2001, 0x2002, 0x2003, 0x2004, 0x2005,
    0x2006, 0x2007, 0x2008, 0x2009, 0x200A, 0x2028, 0x2029, 0x202F, 0x205F, 0x3000]

theorem mem_blankCodes {c : Char} (h : isBlank c = true) : c.toNat ∈ blankCodes := by
  simp only [isBlank, Bool.or_eq_true, Bool.and_eq_true, beq_iff_eq, decide_eq_true_eq] at h
  simp only [blankCodes, List.mem_cons, List.not_mem_nil, or_false]
  omega

theorem isNameChar_blank : ∀ n ∈ blankCodes, isNameChar (Char.ofNat n) = false := by
  decide +kernel

theorem isBlank_of_isNameChar {c : Char} (h : isNameChar c = true) : isBlank c = false := by
  rw [Bool.eq_false_iff]
  intro hb
  have := isNameChar_blank c.toNat (mem_blankCodes hb)
  rw [Char.ofNat_toNat, h] at this
  cases this

theorem ne_nil_of_isName {s : List Char} (h : isName s = true) : s ≠ [] := by
  rintro rfl
  cases h

theorem isNameChar_of_isName {s : List Char} (h : isName s = true) {c : Char} (hc : c ∈ s) :
    c = '.' ∨ isNameChar c = true := by
  by_cases hd : c = '.'
  · exact .inl hd
  · obtain ⟨part, hp, hcp⟩ := exists_mem_splitOn hc hd
    have := List.all_eq_true.1 h part hp
    simp only [Bool.and_eq_true, List.all_eq_true] at this
    exact .inr (this.2 c hcp)

theorem solid_of_isName {s : List Char} (h : isName s = true) : Solid s := by
  intro c hc
  rcases isNameChar_of_isName h hc with rfl | hn
  · rfl
  · exact isBlank_of_isNameChar hn

theorem not_mem_of_isName {s : List Char} (h : isName s = true) {c : Char} (hdot : c ≠ '.')
    (hc : isNameChar c = false) : c ∉ s := by
  intro hm
  rcases isNameChar_of_isName h hm with rfl | hn
  · exact hdot rfl
  · rw [hc] at hn; cases hn

theorem brace_not_mem {s : List Char} (h : isName s = true) : '\x7d' ∉ s :=
  not_mem_of_isName h (by decide) (by decide +kernel)

theorem hash_not_mem {s : List Char} (h : isName s = true) : '#' ∉ s :=
  not_mem_of_isName h (by decide) (by decide +kernel)

theorem slash_not_mem {s : List Char} (h : isName s = true) : '/' ∉ s :=
  not_mem_of_isName h (by decide) (by decide +kernel)

theorem isName_keyword (c : Construct) : isName c.keyword.toList = true := by
  cases c <;> decide

/-! ## Tags -/

/-- What the token of a tag can be. -/
inductive TagToken (inner : List Char) (offset : Nat) : Token → Prop
  | name {name} : isName name = true → TagToken inner offset (.variable (.ofList name))
  | pair {first second} : isName first = true → isName second = true →
      TagToken inner offset (.pair (.ofList first) (.ofList second) (.ofList (Piece.tag inner).source))
  | openBlock {c name} : name = [] ∨ isName name = true →
      TagToken inner offset (.openBlock c (.ofList name) offset)
  | closeBlock {c} : TagToken inner offset (.closeBlock c offset)
  | text : TagToken inner offset (.text (.ofList (Piece.tag inner).source))

theorem tagToken_classify (inner : List Char) (offset : Nat) :
    TagToken inner offset (classify inner offset) := by
  unfold classify
  dsimp only
  split
  · split
    · split
      · next hn =>
        rw [Bool.or_eq_true, List.isEmpty_iff] at hn
        exact .openBlock hn
      · exact .text
    · exact .text
  · split
    · exact .closeBlock
    · exact .text
  · split
    · split
      · next hn => exact .name hn
      · exact .text
    · split
      · next hn =>
        rw [Bool.and_eq_true] at hn
        exact .pair hn.1 hn.2
      · exact .text
    · exact .text

/-- A tag that begins with neither of the two signs of a block is one of words. -/
theorem classify_words {inner : List Char} (h : trimmed inner = inner) (hhash : inner.head? ≠ some '#')
    (hslash : inner.head? ≠ some '/') (offset : Nat) :
    classify inner offset =
      match blankWords inner with
      | [name] => if isName name then .variable (.ofList name) else .text (.ofList (Piece.tag inner).source)
      | [first, second] =>
        if isName first && isName second then
          .pair (.ofList first) (.ofList second) (.ofList (Piece.tag inner).source)
        else .text (.ofList (Piece.tag inner).source)
      | _ => .text (.ofList (Piece.tag inner).source) := by
  unfold classify
  dsimp only
  rw [h]
  split
  · exact absurd rfl hhash
  · exact absurd rfl hslash
  · rfl

theorem classify_name {name : List Char} (h : isName name = true) (offset : Nat) :
    classify name offset = .variable (.ofList name) := by
  have hs := solid_of_isName h
  rw [classify_words (trimmed_of_solid hs) (fun he => hash_not_mem h (List.mem_of_mem_head? he))
    (fun he => slash_not_mem h (List.mem_of_mem_head? he)),
    blankWords_of_solid hs (ne_nil_of_isName h)]
  simp [h]

theorem classify_pair {first second : List Char} (hf : isName first = true) (hs : isName second = true)
    (offset : Nat) : classify (first ++ ' ' :: second) offset =
      .pair (.ofList first) (.ofList second) (.ofList (Piece.tag (first ++ ' ' :: second)).source) := by
  have hne := ne_nil_of_isName hf
  have hhead : (first ++ ' ' :: second).head? = first.head? := by
    cases first with
    | nil => exact absurd rfl hne
    | cons c r => rfl
  have htrim : trimmed (first ++ ' ' :: second) = first ++ ' ' :: second := by
    simpa using trimmed_append (solid_of_isName hf) hne (solid_of_isName hs) (ne_nil_of_isName hs) [' ']
  rw [classify_words htrim (fun he => hash_not_mem hf (List.mem_of_mem_head? (hhead ▸ he)))
    (fun he => slash_not_mem hf (List.mem_of_mem_head? (hhead ▸ he))),
    blankWords_pair (solid_of_isName hf) hne (solid_of_isName hs) (ne_nil_of_isName hs) (by decide)]
  simp [hf, hs]

theorem classify_openBlock {name : List Char} (h : name = [] ∨ isName name = true) (c : Construct)
    (offset : Nat) : classify ('#' :: (c.keyword.toList ++ ' ' :: name)) offset =
      .openBlock c (.ofList name) offset := by
  rcases h with rfl | h
  · cases c <;> rfl
  · have hk := solid_of_isName (isName_keyword c)
    have hs := solid_of_isName h
    have hne := ne_nil_of_isName h
    have hblank : isBlank ' ' = true := by decide
    have hhash : Solid ('#' :: c.keyword.toList) := by cases c <;> decide
    have hin : trimmed ('#' :: (c.keyword.toList ++ ' ' :: name)) =
        '#' :: (c.keyword.toList ++ ' ' :: name) := by
      simpa using trimmed_append hhash (by simp) hs hne [' ']
    have hrest : trimmed (c.keyword.toList ++ ' ' :: name) = c.keyword.toList ++ ' ' :: name := by
      simpa using trimmed_append hk (ne_nil_of_isName (isName_keyword c)) hs hne [' ']
    have hnamed : Construct.named? c.keyword = some c := by cases c <;> rfl
    unfold classify
    rw [hin]
    simp only [hrest, takeWhile_solid hk hblank, dropWhile_solid hk hblank, trimmed_cons_blank hblank hs,
      String.ofList_toList, hnamed, h, Bool.or_true, if_true]

theorem classify_closeBlock (c : Construct) (offset : Nat) :
    classify ('/' :: c.keyword.toList) offset = .closeBlock c offset := by
  cases c <;> rfl

/-! ## Plain tags -/

/-- The tag as it is printed: with single spaces if it means something, else as it is. -/
def plainTag (inner : List Char) : List Char :=
  match classify inner 0 with
  | .variable name => name.toList
  | .pair first second _ =>
    if (Helper.named? first).isSome then first.toList ++ ' ' :: second.toList else inner
  | .openBlock c name _ => '#' :: (c.keyword.toList ++ ' ' :: name.toList)
  | .closeBlock c _ => '/' :: c.keyword.toList
  | .text _ => inner

def Piece.plain : Piece → Piece
  | .literal text => .literal text
  | .tag inner => .tag (plainTag inner)

theorem mark_plain (p : Piece) : p.plain.mark = p.mark := by
  cases p with
  | literal text => rfl
  | tag inner =>
    show (classify (plainTag inner) 0).mark = (classify inner 0).mark
    have h := tagToken_classify inner 0
    unfold plainTag
    generalize hc : classify inner 0 = tok at h ⊢
    cases h with
    | name hn => simp only [String.toList_ofList, classify_name hn]
    | @pair first second hf hs =>
      dsimp only
      split
      · next hh =>
        obtain ⟨f, hf'⟩ := Option.isSome_iff_exists.1 hh
        simp only [String.toList_ofList, classify_pair hf hs, Token.mark, Token.leaf, hf']
      · rw [hc]
    | openBlock hn => simp only [String.toList_ofList, classify_openBlock hn]
    | closeBlock => simp only [classify_closeBlock]
    | text => simp only [hc]

theorem firm_plain {p : Piece} (h : p.Firm) : p.plain.Firm := by
  cases p with
  | literal text => exact h
  | tag inner =>
    show Clear '\x7d' (plainTag inner)
    have ht := tagToken_classify inner 0
    have hk := fun c : Construct => brace_not_mem (isName_keyword c)
    unfold plainTag
    generalize classify inner 0 = tok at ht ⊢
    cases ht with
    | name hn => exact clear_of_not_mem (by simpa using brace_not_mem hn)
    | pair hf hs =>
      dsimp only
      split
      · exact clear_of_not_mem (by simpa using ⟨brace_not_mem hf, brace_not_mem hs⟩)
      · exact h
    | @openBlock c name hn =>
      have hn' : '\x7d' ∉ name := by
        rcases hn with rfl | hn
        · simp
        · exact brace_not_mem hn
      exact clear_of_not_mem (by simpa using ⟨hk c, hn'⟩)
    | @closeBlock c => exact clear_of_not_mem (by simpa using hk c)
    | text => exact h

theorem seamless_map_plain {ps : List Piece} (h : Seamless ps) : Seamless (ps.map Piece.plain) := by
  induction ps with
  | nil => trivial
  | cons p ps ih =>
    obtain ⟨hp | ⟨rfl, text, rfl, hp⟩, hps⟩ := h
    · exact ⟨.inl (firm_plain hp), ih hps⟩
    · exact ⟨.inr ⟨rfl, text, rfl, hp⟩, trivial⟩

/-! ## The printed text -/

def Mark.print : Mark → String
  | .leaf n => printNode n
  | .opening c name => tagText ("#" ++ c.keyword ++ " " ++ name)
  | .closing c => tagText ("/" ++ c.keyword)

/-- What the printer writes for a piece is its plain form. -/
theorem print_mark (p : Piece) : p.mark.print.toList = p.plain.source := by
  cases p with
  | literal text => simp [Mark.print, printNode, Piece.plain, Piece.source]
  | tag inner =>
    show (classify inner 0).mark.print.toList = tagOpen ++ plainTag inner ++ tagClose
    have h := tagToken_classify inner 0
    unfold plainTag
    generalize classify inner 0 = tok at h ⊢
    cases h with
    | name hn => simp [Token.mark, Token.leaf, Mark.print, printNode, tagText, tagOpen, tagClose]
    | @pair first second hf hs =>
      cases hh : Helper.named? (.ofList first) with
      | none => simp [Token.mark, Token.leaf, Mark.print, printNode, Piece.source, hh]
      | some f =>
        have hname : f.name = .ofList first := by
          simpa using List.find?_some hh
        simp [Token.mark, Token.leaf, Mark.print, printNode, tagText, tagOpen, tagClose, hh, hname]
    | openBlock hn => simp [Token.mark, Mark.print, tagText, tagOpen, tagClose]
    | closeBlock => simp [Token.mark, Mark.print, tagText, tagOpen, tagClose]
    | text => simp [Token.mark, Token.leaf, Mark.print, printNode, Piece.source]

theorem printNodes_eq_join (ns : List Node) : printNodes ns = String.join (ns.map printNode) := by
  induction ns with
  | nil => simp [printNodes]
  | cons n ns ih => rw [printNodes, ih, List.map_cons, String.join_cons]

theorem printNodes_pushNode (n : Node) (done : List Node) :
    printNodes (pushNode n done).reverse = printNodes done.reverse ++ printNode n := by
  rw [printNodes_eq_join, printNodes_eq_join, join_map_pushNode fun s => by rw [printNode]]

/-- What is printed of open blocks, innermost first, and of the nodes behind them. -/
def printFrames : List Frame → List Node → String
  | [], done => printNodes done.reverse
  | f :: outer, done =>
    printFrames outer f.before ++ Mark.print (.opening f.construct f.name) ++ printNodes done.reverse

theorem printFrames_pushNode (frames : List Frame) (n : Node) (done : List Node) :
    printFrames frames (pushNode n done) = printFrames frames done ++ printNode n := by
  cases frames with
  | nil => exact printNodes_pushNode n done
  | cons f outer => simp only [printFrames, printNodes_pushNode, String.append_assoc]

/-- A tree is printed as its marks are, one after another. -/
theorem printNodes_of_grow {frames : List Frame} {done : List Node} {ms : List Mark} {ns : List Node}
    (h : grow frames done ms = some ns) :
    printNodes ns = printFrames frames done ++ String.join (ms.map Mark.print) := by
  induction ms generalizing frames done with
  | nil =>
    cases frames with
    | nil => cases h; simp [printFrames]
    | cons f outer => cases h
  | cons m ms ih =>
    rw [List.map_cons, String.join_cons, ← String.append_assoc]
    cases m with
    | leaf n =>
      rw [ih h, printFrames_pushNode]
      rfl
    | opening c name =>
      simp only [grow] at h
      split at h
      · cases h
      · rw [ih h, printFrames]
        simp [printNodes]
    | closing c =>
      cases frames with
      | nil => cases h
      | cons f outer =>
        simp only [grow] at h
        split at h
        · next hc =>
          subst hc
          rw [ih h, printFrames_pushNode, printFrames]
          simp [Mark.print, printNode, String.append_assoc]
        · cases h

/-- **A printed template is read as it was.** The tree of a template, printed with plain tags,
compiles to the same tree. -/
theorem compile_printNodes {source : String} {t : Template} (h : compile source = .ok t) :
    compile (printNodes t.nodes) = .ok t := by
  rw [compile_eq_ok_iff_grow] at h
  have hprint : (printNodes t.nodes).toList =
      ((pieces source.toList).map Piece.plain).flatMap Piece.source := by
    rw [printNodes_of_grow h, marks]
    simp [printFrames, printNodes, String.toList_join, List.flatMap_map, print_mark]
  rw [compile_flatMap_source (seamless_map_plain (seamless_pieces _)) hprint, List.map_map]
  simpa [Function.comp_def, mark_plain, marks] using h

/-- A template with an unknown tag, braces that are no tags, and a tag that is never closed. -/
theorem compile_printNodes_braces :
    let nodes : List Node := [.text ("a" ++ tagText " x y z "),
      .block .whenTrue "ok" [.text "b\x7b ", .helper .upper "n", .text "\x7d\x7d"], .text " \x7b\x7b tail"]
    compile ("a" ++ tagText " x y z " ++ tagText " # if  ok " ++ "b\x7b " ++ tagText "upper   n" ++
      "\x7d\x7d" ++ tagText "/ if" ++ " \x7b\x7b tail") = .ok ⟨nodes⟩ ∧
    compile ("a" ++ tagText " x y z " ++ tagText "#if ok" ++ "b\x7b " ++ tagText "upper n" ++
      "\x7d\x7d" ++ tagText "/if" ++ " \x7b\x7b tail") = .ok ⟨nodes⟩ := by
  intro nodes
  have hp : pieces ("a" ++ tagText " x y z " ++ tagText " # if  ok " ++ "b\x7b " ++ tagText "upper   n" ++
      "\x7d\x7d" ++ tagText "/ if" ++ " \x7b\x7b tail").toList =
      [.literal ['a'], .tag " x y z ".toList, .tag " # if  ok ".toList, .literal "b\x7b ".toList,
        .tag "upper   n".toList, .literal tagClose, .tag "/ if".toList,
        .literal " \x7b\x7b tail".toList] := by
    decide +kernel
  have h : compile ("a" ++ tagText " x y z " ++ tagText " # if  ok " ++ "b\x7b " ++ tagText "upper   n" ++
      "\x7d\x7d" ++ tagText "/ if" ++ " \x7b\x7b tail") = .ok ⟨nodes⟩ := by
    rw [compile_eq_ok_iff_grow, marks, hp]
    rfl
  have hprint : printNodes nodes = "a" ++ tagText " x y z " ++ tagText "#if ok" ++ "b\x7b " ++
      tagText "upper n" ++ "\x7d\x7d" ++ tagText "/if" ++ " \x7b\x7b tail" := by decide +kernel
  exact ⟨h, hprint ▸ compile_printNodes h⟩

end Screenplay.Template
