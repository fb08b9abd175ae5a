import Balancer.Proofs.Numerals
import Balancer.Proofs.Placement
import Balancer.Proofs.Reading

/-!
# The spellings of ranges

The range of a loop is written as a list of two bounds or as one text with two dots between the
bounds, and a bound that is an integer is written as a number or as its numeral. The text is split,
trimmed and read as soon as it is parsed; the items of the list are trimmed and read only when the
loop is built. Whichever way is taken, a bound with the text `s` comes to `Bound.ofText s`
(`SpellsRange.evaluate`), because reading a bound twice is reading it once.

What a loop runs over is not looked at while the rest of the loop is parsed
(`LoopParts.foldlM_add_over`), so two loops that differ in the spelling of their range, and
in the places where they stand, build the same loop over servers (`LoopNode.ofBlock_spelledRange`).
-/

namespace Balancer

open Text

/-! ### The first two dots -/

/-- The first occurrence of two dots is where a text without them, and without a dot at its end,
ends. -/
theorem splitFirst?_dots {cs : List Char} (hdots : occursIn ['.', '.'] cs = false)
    (hend : cs.getLast? ≠ some '.') (rest : List Char) :
    splitFirst? ['.', '.'] (cs ++ '.' :: '.' :: rest) = some (cs, rest) := by
  induction cs with
  | nil => rfl
  | cons c cs ih =>
    rw [occursIn, splitFirst?] at hdots
    have hfront : stripFront? ['.', '.'] (c :: (cs ++ '.' :: '.' :: rest)) = none := by
      rw [stripFront?]
      split_ifs with hc
      · subst hc
        cases cs with
        | nil => exact absurd rfl hend
        | cons d cs =>
          rw [List.cons_append, stripFront?, stripFront?]
          split_ifs with hd
          · subst hd
            simp [stripFront?] at hdots
          · rfl
      · rfl
    have hrest : occursIn ['.', '.'] cs = false := by
      split at hdots
      · exact absurd hdots (by simp)
      · simpa [occursIn] using hdots
    have hend' : cs.getLast? ≠ some '.' := by
      cases cs with
      | nil => simp
      | cons d cs => simpa using hend
    rw [List.cons_append, splitFirst?, hfront]
    simp only [ih hrest hend', Option.map_some]

theorem splitOnce?_dots {s : String} (hdots : occursIn ['.', '.'] s.toList = false)
    (hend : s.toList.getLast? ≠ some '.') (t : String) :
    splitOnce? (s ++ ".." ++ t) ".." = some (s, t) := by
  have hchars : (s ++ ".." ++ t).toList = s.toList ++ '.' :: '.' :: t.toList := by
    simp [String.toList_append]
  have hpattern : "..".toList = ['.', '.'] := rfl
  rw [splitOnce?, hchars, hpattern, splitFirst?_dots hdots hend]
  simp

/-! ### Bounds -/

/-- **The bound that a text stands for**: an integer if it is a numeral, and else an expression. -/
def Bound.ofText (s : String) : Bound :=
  match readInteger? s with
  | some n => .integer n
  | none => .expr s

/-- **A text without blanks around it.** -/
structure Text.Trimmed (s : String) : Prop where
  first : ∀ c ∈ s.toList.head?, isBlank c = false
  last : ∀ c ∈ s.toList.getLast?, isBlank c = false

theorem Text.Trimmed.trim_eq {s : String} (h : Trimmed s) : trim s = s :=
  trim_eq_self h.first h.last

/-- A syntax tree that is converted to a literal, wherever it stands. -/
def Hcl.Expr.IsLiteral (tree : Hcl.Expr) (value : Value) : Prop :=
  ∀ position, Balancer.Expr.ofHcl position tree = .ok (.literal value)

/-- An expression that gives a bound in every environment. -/
def Expr.Gives (expr : Expr) (bound : Bound) : Prop :=
  ∀ environment position, (do
    Bound.ofValue position (← expr.evaluate environment position)) = .ok bound

theorem Bound.ofValue_text {s : String} (h : Trimmed s) (position : Option Position) :
    Bound.ofValue position (.text s) = .ok (Bound.ofText s) := by
  rw [ofValue, h.trim_eq, ofText]
  cases readInteger? s <;> rfl

theorem Expr.gives_text {s : String} (h : Trimmed s) :
    (Expr.literal (.text s)).Gives (Bound.ofText s) := by
  intro environment position
  rw [evaluate, ok_bind]
  exact Bound.ofValue_text h position

theorem Expr.gives_integer (n : Int64) :
    (Expr.literal (.integer n)).Gives (Bound.ofText (integerText n)) := by
  intro environment position
  rw [evaluate, Bound.ofText, readInteger?_integerText]
  rfl

/-- A part of the text of a range is read at once, and reading it again changes nothing. -/
theorem Expr.gives_ofBound {s : String} (h : Trimmed s) :
    (Expr.ofBound s).Gives (Bound.ofText s) := by
  rw [ofBound, h.trim_eq]
  cases hread : readInteger? s with
  | some n =>
    intro environment position
    rw [Bound.ofText, hread]
    rfl
  | none => exact Expr.gives_text h

/-! ### Ranges -/

/-- **The spellings of a bound** with a given text. -/
inductive SpellsBound : String → Hcl.Expr → Prop
  | text {s : String} {value : Hcl.Expr} (h : value.IsLiteral (.text s)) : SpellsBound s value
  | integer {n : Int64} {value : Hcl.Expr} (h : value.IsLiteral (.integer n)) :
    SpellsBound (integerText n) value

/-- **The spellings of a range** between bounds with given texts. -/
inductive SpellsRange (s t : String) : Hcl.Expr → Prop
  | text {value : Hcl.Expr} (h : value.IsLiteral (.text (s ++ ".." ++ t))) : SpellsRange s t value
  | bounds {start stop : Hcl.Expr} (hstart : SpellsBound s start) (hstop : SpellsBound t stop) :
    SpellsRange s t (.array [start, stop])

theorem SpellsBound.exists_gives {s : String} {value : Hcl.Expr} (h : SpellsBound s value)
    (hs : Trimmed s) (position : Option Position) :
    ∃ expr, Expr.ofHcl position value = .ok expr ∧ expr.Gives (Bound.ofText s) := by
  cases h with
  | text h => exact ⟨_, h position, Expr.gives_text hs⟩
  | integer h => exact ⟨_, h position, Expr.gives_integer _⟩

/-- What a text is parsed to, where a range is expected. -/
theorem Iterable.ofRange_of_isLiteral {value : Hcl.Expr} {s t : String}
    (h : value.IsLiteral (.text (s ++ ".." ++ t)))
    (hdots : occursIn ['.', '.'] s.toList = false)
    (hend : s.toList.getLast? ≠ some '.') (position : Option Position) :
    Iterable.ofRange position value = .ok (.range (Expr.ofBound s) (Expr.ofBound t)) := by
  have hvalue := h position
  -- a list is converted to no text
  have hlist (items : List Hcl.Expr) : value ≠ .array items := by
    rintro rfl
    rw [Expr.ofHcl] at hvalue
    obtain ⟨_, -, hvalue⟩ := bind_eq_ok.1 hvalue
    cases hvalue
  unfold ofRange
  split
  · exact absurd rfl (hlist _)
  · exact absurd rfl (hlist _)
  · simp only [hvalue, ok_bind, splitOnce?_dots hdots hend]
    rfl

/-- **A range is accepted and evaluated, in whatever spelling.** -/
theorem SpellsRange.evaluate {s t : String} {value : Hcl.Expr} (h : SpellsRange s t value)
    (hs : Trimmed s) (ht : Trimmed t) (hdots : occursIn ['.', '.'] s.toList = false)
    (hend : s.toList.getLast? ≠ some '.') (position : Option Position) :
    ∃ iterable, Iterable.ofRange position value = .ok iterable ∧
      ∀ environment place, iterable.evaluate environment place =
        .ok (.range (Bound.ofText s) (Bound.ofText t)) := by
  have hrange {start stop : Expr} (hstart : start.Gives (Bound.ofText s))
      (hstop : stop.Gives (Bound.ofText t)) (environment : Environment)
      (place : Option Position) : (Iterable.range start stop).evaluate environment place =
        .ok (.range (Bound.ofText s) (Bound.ofText t)) := by
    obtain ⟨first, hfirst, hbound⟩ := bind_eq_ok.1 (hstart environment place)
    obtain ⟨last, hlast, hbound'⟩ := bind_eq_ok.1 (hstop environment place)
    simp only [Iterable.evaluate, hfirst, hbound, hlast, hbound', ok_bind]
    rfl
  cases h with
  | text h =>
    exact ⟨_, Iterable.ofRange_of_isLiteral h hdots hend position,
      hrange (Expr.gives_ofBound hs) (Expr.gives_ofBound ht)⟩
  | bounds hstart hstop =>
    obtain ⟨first, hfirst, hgives⟩ := hstart.exists_gives hs position
    obtain ⟨last, hlast, hgives'⟩ := hstop.exists_gives ht position
    refine ⟨.range first last, ?_, hrange hgives hgives'⟩
    rw [Iterable.ofRange, hfirst, hlast]
    rfl

/-! ### Loops -/

/-- The parts of a loop that runs over something else. -/
def LoopParts.over (parts : LoopParts) (iterable : Iterable) : LoopParts :=
  { parts with iterable := some iterable }

section Loops

variable (place : Nat → Option Position)

/-- A structure is added without a look at what the loop runs over. -/
theorem LoopParts.add_over (parts : LoopParts) (iterable iterable' : Iterable)
    (entry : Hcl.Structure) :
    (parts.over iterable).add place entry =
      (·.over iterable) <$> (parts.over iterable').add place entry := by
  cases entry with
  | assignment name value left =>
    by_cases hrange : name = "range"
    · subst hrange
      rw [add, add]
      cases Iterable.ofRange (place left) value <;> rfl
    by_cases hin : name = "in"
    · subst hin
      rw [add, add]
      cases Iterable.ofItems (place left) value <;> rfl
    rw [add_assignment place hrange hin, add_assignment place hrange hin]
    cases Child.ofHcl name (place left) value with
    | error e => rfl
    | ok child =>
      rw [ok_bind, ok_bind, addChild, addChild]
      cases child.looped? <;> rfl
  | block kind labels body left =>
    by_cases hkind : kind = "for"
    · subst hkind
      rfl
    rw [add_block place hkind, add_block place hkind]
    cases ObjectNode.ofBlock place kind labels body left <;> rfl

/-- **The rest of a loop is parsed without a look at what it runs over.** -/
theorem LoopParts.foldlM_add_over (parts : LoopParts) (iterable iterable' : Iterable)
    (entries : List Hcl.Structure) :
    entries.foldlM (add place) (parts.over iterable) =
      (·.over iterable) <$> entries.foldlM (add place) (parts.over iterable') := by
  induction entries generalizing parts with
  | nil => rfl
  | cons entry entries ih =>
    rw [List.foldlM_cons, List.foldlM_cons, add_over place parts iterable iterable']
    have hkeeps := add_over place parts iterable' iterable' entry
    cases hadd : (parts.over iterable').add place entry with
    | error e => rfl
    | ok next =>
      rw [hadd] at hkeeps
      have hnext : next.over iterable' = next := (Except.ok.inj hkeeps).symm
      have hrest := ih next
      rw [hnext] at hrest
      exact hrest

variable (place' : Nat → Option Position) in
/-- Two runs over the rest of a loop, after ranges in two spellings. -/
theorem LoopParts.parsesAlike_foldlM_over {parts parts' : LoopParts}
    (hbody : objectsOutline parts.body = objectsOutline parts'.body) (iterable iterable' : Iterable)
    {entries entries' : List Hcl.Structure} (h : Hcl.MovedAll entries entries') :
    ParsesAlike
      (fun result result' => result.iterable = some iterable ∧
        result'.iterable = some iterable' ∧
        objectsOutline result.body = objectsOutline result'.body)
      (entries.foldlM (add place) (parts.over iterable))
      (entries'.foldlM (add place') (parts'.over iterable')) := by
  have hrun : ParsesAlike Alike (entries.foldlM (add place) (parts.over iterable'))
      (entries'.foldlM (add place') (parts'.over iterable')) := by
    refine (ending _).foldlM h.forall₂ ?_ ⟨rfl, hbody⟩
    intro parts parts' hparts entry entry' hentry
    exact parsesAlike_add place place' hparts hentry
  rw [foldlM_add_over place parts iterable iterable', foldlM_add_over place' parts' iterable'
    iterable']
  exact (ending _).map hrun fun result result' halike => ⟨rfl, rfl, halike.body⟩

/-- What loops with the same range and alike bodies are read as. -/
theorem buildsAlike_readLoop {environment : Environment} {range : LoopIterable}
    {iterable iterable' : Iterable} {binder : String} {body body' : List ObjectNode}
    {here there : Option Position} (h : iterable.evaluate environment here = .ok range)
    (h' : iterable'.evaluate environment there = .ok range)
    (hbody : objectsOutline body = objectsOutline body') :
    BuildsAlike (fun loop loop' => loop' = loop ∧ loop.iterable = range)
      (readLoop environment ⟨binder, iterable, body, here⟩)
      (readLoop environment ⟨binder, iterable', body', there⟩) := by
  have hservers : BuildsAlike Eq (readServers environment here body)
      (readServers environment there body') := by
    refine (buildsAlike_readServers here body).of_common
      (hbody ▸ buildsAlike_readServers there body') ?_ ?_
    · intro servers outlined servers' hread hread'
      exact hread.trans hread'.symm
    · intro e outlined e' he he'
      exact he.trans he'.symm
  simp only [readLoop, h, h', ok_bind]
  exact hservers.bind_eq fun servers => .ok ⟨rfl, rfl⟩

variable (place' : Nat → Option Position) in
/-- **The two spellings of a range agree.** A range between texts without blanks around them, the
first one without two dots and without a dot at its end, is accepted in every spelling. Loops that
differ in the spelling of their range, and in the places where they stand, are both refused for the
same cause, or both fail to build for the same cause, or build the same loop over servers. -/
theorem LoopNode.ofBlock_spelledRange {s t : String} (hs : Trimmed s) (ht : Trimmed t)
    (hdots : occursIn ['.', '.'] s.toList = false) (hend : s.toList.getLast? ≠ some '.')
    {value value' : Hcl.Expr} (hvalue : SpellsRange s t value) (hvalue' : SpellsRange s t value')
    {before before' after after' : List Hcl.Structure} (hbefore : Hcl.MovedAll before before')
    (hafter : Hcl.MovedAll after after') (labels : List String) (left left' there there' : Nat)
    (environment : Environment) :
    (∀ position, ∃ iterable, Iterable.ofRange position value = .ok iterable ∧
        ∀ place, iterable.evaluate environment place =
          .ok (.range (Bound.ofText s) (Bound.ofText t))) ∧
      ParsesAlike
        (fun node node' => BuildsAlike
          (fun loop loop' => loop' = loop ∧
            loop.iterable = .range (Bound.ofText s) (Bound.ofText t))
          (readLoop environment node) (readLoop environment node'))
        (LoopNode.ofBlock place labels (before ++ .assignment "range" value there :: after) left)
        (LoopNode.ofBlock place' labels (before' ++ .assignment "range" value' there' :: after')
          left') := by
  refine ⟨fun position => ?_, ?_⟩
  · obtain ⟨iterable, hread, hevaluate⟩ := hvalue.evaluate hs ht hdots hend position
    exact ⟨iterable, hread, hevaluate environment⟩
  obtain ⟨iterable, hread, hevaluate⟩ := hvalue.evaluate hs ht hdots hend (place there)
  obtain ⟨iterable', hread', hevaluate'⟩ := hvalue'.evaluate hs ht hdots hend (place' there')
  refine (parsesAlike_onlyLabel "for" labels _ _).bind_eq fun binder => ?_
  have hrun : ParsesAlike
      (fun result result' => result.iterable = some iterable ∧
        result'.iterable = some iterable' ∧
        objectsOutline result.body = objectsOutline result'.body)
      ((before ++ .assignment "range" value there :: after).foldlM (LoopParts.add place) {})
      ((before' ++ .assignment "range" value' there' :: after').foldlM
        (LoopParts.add place') {}) := by
    rw [List.foldlM_append, List.foldlM_append]
    refine Ends₂.bind (R := LoopParts.Alike) ?_ fun parts parts' hparts => ?_
    · refine (ending _).foldlM hbefore.forall₂ ?_ (.refl {})
      intro parts parts' hparts entry entry' hentry
      exact LoopParts.parsesAlike_add place place' hparts hentry
    rw [List.foldlM_cons, List.foldlM_cons, LoopParts.add, LoopParts.add, hread, hread', ok_bind,
      ok_bind, LoopParts.setIterable, LoopParts.setIterable, hparts.iterable]
    split
    · exact LoopParts.parsesAlike_foldlM_over place place' hparts.body iterable iterable' hafter
    · exact .error rfl
  refine hrun.bind ?_
  rintro parts parts' ⟨hparts, hparts', hbody⟩
  rw [hparts, hparts']
  exact .ok (buildsAlike_readLoop (hevaluate environment _) (hevaluate' environment _) hbody)

end Loops

/-- The smallest integer, once in the text of a range and once as a number in a list, in front of
an expression. -/
theorem LoopNode.ofBlock_smallest_bound :
    let servers : Hcl.Structure := .block "server" ["app"] [.assignment "address" (.text "h") 9] 20
    let written : List Hcl.Structure :=
      [.assignment "range" (.template "-9223372036854775808..$\x7bn\x7d") 60, servers]
    let listed : List Hcl.Structure :=
      [.assignment "range" (.array [.number (.integer Int64.minValue),
        .parenthesis (.template "$\x7bn\x7d")]) 50, servers]
    ∃ node node' loop, LoopNode.ofBlock (fun _ => none) ["i"] written 80 = .ok node ∧
      LoopNode.ofBlock (fun _ => none) ["i"] listed 70 = .ok node' ∧
      readLoop {} node = .ok loop ∧ readLoop {} node' = .ok loop ∧
      loop.iterable = .range (.integer Int64.minValue) (.expr "$\x7bn\x7d") := by
  intro servers written listed
  have hs : Trimmed "-9223372036854775808" := ⟨by simp [isBlank], by simp [isBlank]⟩
  have ht : Trimmed "$\x7bn\x7d" := ⟨by simp [isBlank], by simp [isBlank]⟩
  have hsmallest : integerText Int64.minValue = "-9223372036854775808" := by decide +kernel
  have hexpr : readInteger? "$\x7bn\x7d" = none := by decide +kernel
  have hwritten : SpellsRange "-9223372036854775808" "$\x7bn\x7d"
      (.template "-9223372036854775808..$\x7bn\x7d") := .text fun _ => rfl
  have hlisted : SpellsRange "-9223372036854775808" "$\x7bn\x7d"
      (.array [.number (.integer Int64.minValue), .parenthesis (.template "$\x7bn\x7d")]) :=
    .bounds (hsmallest ▸ .integer fun _ => rfl) (.text fun _ => rfl)
  have hservers : Hcl.MovedAll [servers] [servers] :=
    .cons (.block "server" ["app"] (.cons (.assignment "address" _ 9 9) .nil) 20 20) .nil
  obtain ⟨-, halike⟩ := LoopNode.ofBlock_spelledRange (fun _ => none) (fun _ => none) hs ht
    (by decide +kernel) (by decide +kernel) hwritten hlisted .nil hservers ["i"] 80 70 60 50 {}
  obtain ⟨node, loop, hnode, hloop⟩ :
      ∃ node loop, LoopNode.ofBlock (fun _ => none) ["i"] written 80 = .ok node ∧
        readLoop {} node = .ok loop := ⟨_, _, rfl, rfl⟩
  obtain ⟨node', hnode', hbuilds⟩ := halike.exists_eq_ok hnode
  obtain ⟨_, hloop', rfl, hiterable⟩ := hbuilds.exists_eq_ok hloop
  simp only [Bound.ofText, ← hsmallest, readInteger?_integerText, hexpr] at hiterable
  exact ⟨node, node', _, hnode, hnode', hloop, hloop', hiterable⟩

end Balancer
