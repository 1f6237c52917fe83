import CykChart.Proofs.Rearranging
import Mathlib.Data.Set.Function

/-!
# The names of symbols do not show

Which characters a grammar uses as its symbols does not matter, and neither does the order in which
they were declared. When one grammar becomes another by a change of names that keeps different
symbols apart, derivations carry over in both directions, and so do the cells of charts and the
verdict. When no name changes the two grammars are rearrangements of each other, which also print
and draw alike.

## Main definitions

- `Body.rename`: a body under a change of names.
- `Grammar.Renaming`: a change of names from one grammar to another.

## Main results

- `Grammar.Renaming.derives_map_iff`: derivations carry over.
- `Grammar.Renaming.rearranged`: without a change of names there is only one of order.
- `Grammar.answers_up_to_renaming`: how the answers of two such grammars are related.
-/

namespace CykChart

/-- A body whose nonterminals and terminals are named anew. -/
def Body.rename (p q : Char → Char) : Body → Body
  | .terminal symbol => .terminal (q symbol)
  | .pair left right => .pair (p left) (p right)

/-- The stretches of a renamed word are the renamed stretches of the word. -/
theorem stretch_map (q : Char → Char) (word : List Char) (offset span : Nat) :
    stretch (word.map q) offset span = (stretch word offset span).map q := by
  rw [stretch, stretch, ← List.map_drop, ← List.map_take]

/-- A stretch is made of symbols of the word. -/
theorem mem_of_mem_stretch {word : List Char} {offset span : Nat} {c : Char}
    (h : c ∈ stretch word offset span) : c ∈ word :=
  List.mem_of_mem_drop (List.mem_of_mem_take h)

namespace Grammar

/-- One grammar becomes another by naming its nonterminals and its terminals anew. The names of
symbols that are not declared play no part, and neither do the orders of symbols and rules. -/
structure Renaming (p q : Char → Char) (g h : Grammar) : Prop where
  /-- The nonterminals correspond to each other. -/
  nonterminals : Set.BijOn p {c | c ∈ g.nonterminals} {c | c ∈ h.nonterminals}
  /-- The terminals correspond to each other. -/
  terminals : Set.BijOn q {c | c ∈ g.terminals} {c | c ∈ h.terminals}
  /-- The start symbols correspond to each other. -/
  start : h.start = g.start.map p
  /-- The bodies of a renamed head are the renamed bodies of the head. -/
  bodies : ∀ head ∈ g.nonterminals, ∀ body,
    body ∈ h.bodies (p head) ↔ body ∈ (g.bodies head).map (Body.rename p q)

/-- Whether symbols correspond to each other can be told by going through them. -/
instance (p : Char → Char) (as bs : List Char) :
    Decidable (Set.BijOn p {c | c ∈ as} {c | c ∈ bs}) :=
  decidable_of_iff
    ((as.all fun c => p c ∈ bs) = true ∧
      (as.all fun c => as.all fun d => p c = p d → c = d) = true ∧
      (bs.all fun d => as.any fun c => p c = d) = true)
    (by simp only [List.all_eq_true, List.any_eq_true, decide_eq_true_eq]; exact Iff.rfl)

/-- Two lists have the same bodies when the bodies that are in one of them are in both. -/
theorem forall_mem_iff_mem_iff {as bs : List Body} :
    (∀ body, body ∈ as ↔ body ∈ bs) ↔ (as ++ bs).all (fun body => body ∈ as ↔ body ∈ bs) := by
  simp only [List.all_eq_true, decide_eq_true_eq]
  constructor
  · exact fun h body _ => h body
  · intro h body
    by_cases hbody : body ∈ as ++ bs
    · exact h body hbody
    · rw [List.mem_append, not_or] at hbody
      exact iff_of_false hbody.1 hbody.2

/-- Whether a change of names leads from one grammar to another can be told by going through the
symbols and bodies of both. -/
instance (p q : Char → Char) (g h : Grammar) : Decidable (Renaming p q g h) :=
  decidable_of_iff
    (Set.BijOn p {c | c ∈ g.nonterminals} {c | c ∈ h.nonterminals} ∧
      Set.BijOn q {c | c ∈ g.terminals} {c | c ∈ h.terminals} ∧ h.start = g.start.map p ∧
      (g.nonterminals.all fun head =>
        (h.bodies (p head) ++ (g.bodies head).map (Body.rename p q)).all fun body =>
          body ∈ h.bodies (p head) ↔ body ∈ (g.bodies head).map (Body.rename p q)) = true) <| by
    simp only [List.all_eq_true (l := g.nonterminals), ← forall_mem_iff_mem_iff]
    constructor
    · rintro ⟨hnonterminals, hterminals, hstart, hbodies⟩
      exact ⟨hnonterminals, hterminals, hstart, hbodies⟩
    · rintro ⟨hnonterminals, hterminals, hstart, hbodies⟩
      exact ⟨hnonterminals, hterminals, hstart, hbodies⟩

namespace Renaming

variable {g h : Grammar} {p q : Char → Char} {head : Char} {word : List Char}

/-! ## Rules and derivations -/

/-- The rules of a renamed head are the renamed rules of the head. -/
theorem mem_rules_iff (names : Renaming p q g h) (hhead : head ∈ g.nonterminals) {body : Body} :
    ⟨p head, body⟩ ∈ h.rules ↔ ∃ original, ⟨head, original⟩ ∈ g.rules ∧
      original.rename p q = body := by
  rw [← mem_bodies, names.bodies head hhead, List.mem_map]
  simp only [mem_bodies]

/-- A grammar with rules has rules under its new names. -/
theorem rules_ne_nil (names : Renaming p q g h) (hg : g.WellFormed) (hrules : g.rules ≠ []) :
    h.rules ≠ [] := by
  obtain ⟨rule, rest, hcons⟩ := List.exists_cons_of_ne_nil hrules
  have hrule : rule ∈ g.rules := hcons ▸ List.mem_cons_self
  have hrenamed : ⟨p rule.head, rule.body.rename p q⟩ ∈ h.rules :=
    (names.mem_rules_iff (hg.head_mem rule hrule)).2 ⟨rule.body, hrule, rfl⟩
  exact List.ne_nil_of_mem hrenamed

/-- A word over the terminals is renamed to one over the new terminals. -/
theorem map_mem_terminals (names : Renaming p q g h) (hword : ∀ c ∈ word, c ∈ g.terminals) :
    ∀ c ∈ word.map q, c ∈ h.terminals := by
  intro c hc
  obtain ⟨original, horiginal, rfl⟩ := List.mem_map.1 hc
  exact names.terminals.mapsTo (hword original horiginal)

/-- A derivation stays one when every symbol in it is renamed. -/
theorem derives_map (names : Renaming p q g h) (hg : g.WellFormed)
    (hderives : g.Derives head word) : h.Derives (p head) (word.map q) := by
  induction hderives with
  | terminal hrule =>
    exact .terminal ((names.mem_rules_iff (hg.head_mem _ hrule)).2 ⟨_, hrule, rfl⟩)
  | pair hrule _ _ ihFirst ihSecond =>
    rw [List.map_append]
    refine .pair ?_ ihFirst ihSecond
    exact (names.mem_rules_iff (hg.head_mem _ hrule)).2 ⟨_, hrule, rfl⟩

/-- A derivation over renamed symbols is that of a derivation. -/
theorem derives_of_map (names : Renaming p q g h) (hg : g.WellFormed) {renamed : Char}
    {image : List Char} (hderives : h.Derives renamed image) (hhead : head ∈ g.nonterminals)
    (hword : ∀ c ∈ word, c ∈ g.terminals) (hrenamed : p head = renamed)
    (himage : word.map q = image) : g.Derives head word := by
  -- Each step of the derivation tells its head and the part of the word below it.
  induction hderives generalizing head word with
  | @terminal _ symbol hrule =>
    subst hrenamed
    obtain ⟨_ | _, horiginal, hbody⟩ := (names.mem_rules_iff hhead).1 hrule
    case pair => exact absurd hbody (by simp [Body.rename])
    case terminal original =>
      obtain ⟨c, rfl, hc⟩ := List.map_eq_singleton_iff.1 himage
      -- Different terminals have different names, so the word is the terminal of the rule.
      have hsame : q c = q original := hc.trans (Body.terminal.inj hbody).symm
      have horiginalMem : original ∈ g.terminals := hg.body_mem _ horiginal
      have hcMem : c ∈ g.terminals := hword c List.mem_cons_self
      rw [names.terminals.injOn hcMem horiginalMem hsame]
      exact .terminal horiginal
  | @pair _ left right first second hrule _ _ ihFirst ihSecond =>
    subst hrenamed
    obtain ⟨_ | _, horiginal, hbody⟩ := (names.mem_rules_iff hhead).1 hrule
    case terminal => exact absurd hbody (by simp [Body.rename])
    case pair originalLeft originalRight =>
      obtain ⟨hleft, hright⟩ := Body.pair.inj hbody
      obtain ⟨before, after, rfl, hfirst, hsecond⟩ := List.map_eq_append_iff.1 himage
      obtain ⟨hleftMem, hrightMem⟩ :
          originalLeft ∈ g.nonterminals ∧ originalRight ∈ g.nonterminals :=
        hg.body_mem _ horiginal
      obtain ⟨hbefore, hafter⟩ := List.forall_mem_append.1 hword
      exact .pair horiginal (ihFirst hleftMem hbefore hleft hfirst)
        (ihSecond hrightMem hafter hright hsecond)

/-- A nonterminal derives a word under its new name when it does under the old one. -/
theorem derives_map_iff (names : Renaming p q g h) (hg : g.WellFormed)
    (hhead : head ∈ g.nonterminals) (hword : ∀ c ∈ word, c ∈ g.terminals) :
    h.Derives (p head) (word.map q) ↔ g.Derives head word := by
  constructor
  · exact fun hderives => names.derives_of_map hg hderives hhead hword rfl rfl
  · exact names.derives_map hg

/-! ## Verdicts and cells -/

/-- A renamed word is accepted exactly when the word is. -/
theorem accepts_chart_eq (names : Renaming p q g h) (hg : g.WellFormed) (hh : h.WellFormed)
    {start : Char} (hstart : g.start = some start) (hword : ∀ c ∈ word, c ∈ g.terminals) :
    ((h.bits (p start)).chart (word.map q)).accepts = ((g.bits start).chart word).accepts := by
  have hrenamed : h.start = some (p start) := by rw [names.start, hstart, Option.map_some]
  rw [Bool.eq_iff_iff, hh.accepts_chart_iff hrenamed (names.map_mem_terminals hword),
    hg.accepts_chart_iff hstart hword]
  exact names.derives_map_iff hg (hg.start_mem start hstart) hword

/-- The cell of a renamed stretch lists the new names of the nonterminals in the cell of the
stretch. -/
theorem exists_cells (names : Renaming p q g h) (hg : g.WellFormed) (hh : h.WellFormed)
    (start : Char) (hword : ∀ c ∈ word, c ∈ g.terminals) {offset span : Nat} (hspan : 1 ≤ span)
    (hstretch : offset + span ≤ word.length) :
    ∃ cell image, ((g.bits start).chart word).cell offset span = .ok cell ∧
      ((h.bits (p start)).chart (word.map q)).cell offset span = .ok image ∧
      ∀ c, c ∈ image ↔ c ∈ cell.map p := by
  obtain ⟨cell, hcell, hmem⟩ := hg.exists_cell start hword hspan hstretch
  obtain ⟨image, himage, hmemImage⟩ := hh.exists_cell (p start)
    (names.map_mem_terminals hword) hspan (hstretch.trans_eq (List.length_map q).symm)
  refine ⟨cell, image, hcell, himage, fun c => ?_⟩
  have hsymbols : ∀ d ∈ stretch word offset span, d ∈ g.terminals := fun d hd =>
    hword d (mem_of_mem_stretch hd)
  rw [hmemImage, stretch_map, List.mem_map]
  constructor
  · rintro ⟨hc, hderives⟩
    -- Every nonterminal of the renamed grammar is an image.
    obtain ⟨original, horiginal, rfl⟩ := names.nonterminals.surjOn hc
    have hderivesOriginal := (names.derives_map_iff hg horiginal hsymbols).1 hderives
    exact ⟨original, (hmem original).2 ⟨horiginal, hderivesOriginal⟩, rfl⟩
  · rintro ⟨original, hin, rfl⟩
    obtain ⟨horiginal, hderives⟩ := (hmem original).1 hin
    exact ⟨names.nonterminals.mapsTo horiginal, names.derives_map hg hderives⟩

/-! ## Unchanged names -/

/-- Names that do not change leave a body over declared symbols as it is. -/
theorem rename_eq_self {body : Body} (hbody : g.DeclaresBody body)
    (hp : ∀ c ∈ g.nonterminals, p c = c) (hq : ∀ c ∈ g.terminals, q c = c) :
    body.rename p q = body := by
  cases body with
  | terminal symbol => exact congrArg Body.terminal (hq symbol hbody)
  | pair left right => exact congrArg₂ Body.pair (hp left hbody.1) (hp right hbody.2)

/-- A renaming that keeps all names keeps everything except the order. -/
theorem rearranged (names : Renaming p q g h) (hg : g.WellFormed) (hh : h.WellFormed)
    (hp : ∀ c ∈ g.nonterminals, p c = c) (hq : ∀ c ∈ g.terminals, q c = c) :
    g.Rearranged h := by
  -- A renaming that fixes every symbol maps each vocabulary onto itself.
  have hnonterminals : ∀ c, c ∈ g.nonterminals ↔ c ∈ h.nonterminals :=
    Set.ext_iff.1 ((Set.EqOn.image_eq_self hp).symm.trans names.nonterminals.image_eq)
  have hterminals : ∀ c, c ∈ g.terminals ↔ c ∈ h.terminals :=
    Set.ext_iff.1 ((Set.EqOn.image_eq_self hq).symm.trans names.terminals.image_eq)
  have hstart : g.start = h.start := by
    rw [names.start]
    cases hsome : g.start with
    | none => rfl
    | some start => rw [Option.map_some, hp start (hg.start_mem start hsome)]
  refine ⟨hnonterminals, hterminals, hstart, ?_⟩
  rintro ⟨head, body⟩
  constructor
  · intro hrule
    have hhead : head ∈ g.nonterminals := hg.head_mem _ hrule
    have hrenamed := (names.mem_rules_iff hhead).2 ⟨body, hrule, rfl⟩
    rwa [hp head hhead, rename_eq_self (hg.body_mem _ hrule) hp hq] at hrenamed
  · intro hrule
    have hhead : head ∈ g.nonterminals := (hnonterminals head).2 (hh.head_mem _ hrule)
    rw [← hp head hhead] at hrule
    obtain ⟨original, horiginal, rfl⟩ := (names.mem_rules_iff hhead).1 hrule
    rwa [rename_eq_self (hg.body_mem _ horiginal) hp hq]

end Renaming

variable {g h : Grammar} {p q : Char → Char} {word : List Char}

/-- The answers of a reachable grammar that is ready depend on it only up to the names of its
symbols and the order in which it was built. A grammar that it becomes by a change of names gives
the same verdict on the renamed word, and the cells of its chart are the renamed cells. When no name
changes the two print the same table and draw the same source. -/
theorem answers_up_to_renaming (hg : g.Reachable) (hh : h.Reachable) (hrules : g.rules ≠ [])
    (hready : g.start ≠ none) (names : Renaming p q g h)
    (hword : ∀ c ∈ word, c ∈ g.terminals) :
    (∃ verdict, g.accepts word = .ok verdict ∧ h.accepts (word.map q) = .ok verdict) ∧
    (∃ chart renamed, g.chart word = .ok chart ∧ h.chart (word.map q) = .ok renamed ∧
      ∀ offset span : Nat, 1 ≤ span → offset + span ≤ word.length →
        ∃ cell image, chart.cell offset span = .ok cell ∧ renamed.cell offset span = .ok image ∧
          ∀ c, c ∈ image ↔ c ∈ cell.map p) ∧
    ((∀ c ∈ g.nonterminals, p c = c) → (∀ c ∈ g.terminals, q c = c) →
      (∃ text, g.table word = .ok text ∧ h.table word = .ok text) ∧
      ∃ source, Dot.Graph.source <$> g.drawing word = .ok source ∧
        Dot.Graph.source <$> h.drawing word = .ok source) := by
  have hgWf := hg.wellFormed
  have hhWf := hh.wellFormed
  obtain ⟨start, hstart⟩ := Option.ne_none_iff_exists'.1 hready
  have hrenamedStart : h.start = some (p start) := by rw [names.start, hstart, Option.map_some]
  have hrenamedRules : h.rules ≠ [] := names.rules_ne_nil hgWf hrules
  have hrenamedWord := names.map_mem_terminals hword
  have hchart := chart_eq_ok hrules hstart hword
  have hrenamedChart := chart_eq_ok hrenamedRules hrenamedStart hrenamedWord
  refine ⟨⟨_, accepts_eq_ok hrules hstart hword, ?_⟩, ⟨_, _, hchart, hrenamedChart, ?_⟩, ?_⟩
  · rw [accepts_eq_ok hrenamedRules hrenamedStart hrenamedWord,
      names.accepts_chart_eq hgWf hhWf hstart hword]
  · exact fun offset span => names.exists_cells hgWf hhWf start hword
  · intro hp hq
    -- The word keeps its name too, so both grammars fill charts of the same word.
    rw [List.map_congr_left fun c hc => hq c (hword c hc), List.map_id'] at hrenamedChart
    rw [hp start (hgWf.start_mem start hstart)] at hrenamedChart
    have agrees : (g.bits start).Agrees (h.bits start) :=
      (names.rearranged hgWf hhWf hp hq).agrees hgWf hhWf
    rw [table, table, drawing, drawing, hchart, hrenamedChart]
    refine ⟨⟨_, rfl, ?_⟩, ⟨_, rfl, ?_⟩⟩
    · exact congrArg Except.ok (agrees.print_chart hword).symm
    · exact congrArg (fun graph => Except.ok graph.source) (agrees.drawing_chart hword).symm

/-- New names may reverse the order of the nonterminals by code point, and with it all masks. -/
theorem answers_up_to_renaming_reversed :
    let g : Grammar :=
      { nonterminals := ['S', 'A']
        terminals := ['a', 'b']
        start := some 'S'
        rules := [⟨'S', .pair 'A' 'S'⟩, ⟨'S', .terminal 'b'⟩, ⟨'A', .terminal 'a'⟩] }
    let renamed : Grammar :=
      { nonterminals := ['T', 'C']
        terminals := ['x', 'y']
        start := some 'C'
        rules := [⟨'T', .terminal 'y'⟩, ⟨'C', .terminal 'x'⟩, ⟨'C', .pair 'T' 'C'⟩] }
    let rearranged : Grammar :=
      { nonterminals := ['A', 'S']
        terminals := ['b', 'a']
        start := some 'S'
        rules := [⟨'A', .terminal 'a'⟩, ⟨'S', .terminal 'b'⟩, ⟨'S', .pair 'A' 'S'⟩] }
    renamed.accepts ['y', 'y', 'x'] = .ok true ∧
      ∃ text, g.table ['a', 'a', 'b'] = .ok text ∧ rearranged.table ['a', 'a', 'b'] = .ok text := by
  intro g renamed rearranged
  have hg : g.Reachable := .of_edits
    [.declareNonterminal (.text "S"), .declareNonterminal (.text "A"),
      .declareTerminal (.text "a"), .declareTerminal (.text "b"), .setStart (.text "S"),
      .addRule (.text "S") (.text "AS"), .addRule (.text "S") (.text "b"),
      .addRule (.text "A") (.text "a")]
    (by decide +kernel)
  have hrenamed : renamed.Reachable := .of_edits
    [.declareNonterminal (.text "T"), .declareNonterminal (.text "C"),
      .declareTerminal (.text "x"), .declareTerminal (.text "y"), .setStart (.text "C"),
      .addRule (.text "T") (.text "y"), .addRule (.text "C") (.text "x"),
      .addRule (.text "C") (.text "TC")]
    (by decide +kernel)
  have hrearranged : rearranged.Reachable := .of_edits
    [.declareNonterminal (.text "A"), .declareNonterminal (.text "S"),
      .declareTerminal (.text "b"), .declareTerminal (.text "a"), .setStart (.text "S"),
      .addRule (.text "A") (.text "a"), .addRule (.text "S") (.text "b"),
      .addRule (.text "S") (.text "AS")]
    (by decide +kernel)
  have hrules : g.rules ≠ [] := List.cons_ne_nil _ _
  have hready : g.start ≠ none := Option.some_ne_none _
  have hword : ∀ c ∈ ['a', 'a', 'b'], c ∈ g.terminals := by simp [g]
  constructor
  · have names : Renaming (fun c => if c = 'S' then 'C' else 'T')
        (fun c => if c = 'a' then 'y' else 'x') g renamed := by
      decide +kernel
    obtain ⟨⟨verdict, hverdict, hsame⟩, -⟩ :=
      answers_up_to_renaming hg hrenamed hrules hready names hword
    have haccepts : g.accepts ['a', 'a', 'b'] = .ok true := by decide +kernel
    exact hsame.trans (hverdict.symm.trans haccepts)
  · have names : Renaming id id g rearranged := by decide +kernel
    obtain ⟨-, -, hkept⟩ := answers_up_to_renaming hg hrearranged hrules hready names hword
    exact (hkept (fun _ _ => rfl) fun _ _ => rfl).1

end Grammar

end CykChart
