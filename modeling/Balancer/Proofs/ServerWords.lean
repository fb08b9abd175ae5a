import Balancer.Proofs.Auditing

/-!
# What the line of a server tells

The options of a server stand on its line as a flat sequence of words. Nothing marks a word as a
keyword or as a value: a value may be empty, or spelled like the keyword of another option. All the
same, what is written can be read off the line, for two reasons.

* Words are separated by single spaces. As long as no text of the server has a space, the words of
  the line are what stands between its spaces, empty words included (`Layout.Line.text_inj`).
* Options are written in the order of the slots, and no two slots have the same keyword. So what
  follows the options of the first slots is nothing, or starts with the keyword of a later slot
  (`ServerOptions.exists_keyword_of_head?`). A reader that goes through the slots in order knows
  from the next word whether the slot is written, and from the type of the slot how many words
  belong to it (`ServerSlot.words_append_inj`).

What cannot be read off is what is not written: whether a switch that is not on is off or unset, how
a list was cut into the items that are joined by commas, and whether a port was part of the address.
Up to this, lines with the options of servers determine what they were written for
(`ServerLine.text_eq_iff_writtenAlike`).
-/

namespace Balancer

open Layout Text

/-! ### Words of a line -/

/-- **Unspaced values**: none of their strings has a space. -/
def Unspaced {α : Type} [Worded α] (a : α) : Prop := ∀ s ∈ strings a, ' ' ∉ s.toList

instance {α : Type} [Worded α] (a : α) : Decidable (Unspaced a) :=
  inferInstanceAs (Decidable (∀ _ ∈ _, _))

/-- Lines without spaces in their words have the same text only if they have the same words. -/
theorem Layout.Line.text_inj {line line' : Line} (h : ∀ word ∈ line, ' ' ∉ word.toList)
    (h' : ∀ word ∈ line', ' ' ∉ word.toList) (hne : line ≠ []) (hne' : line' ≠ []) :
    line.text = line'.text ↔ line = line' := by
  constructor
  · intro htext
    have hsep : " ".toList = [' '] := rfl
    calc line = (line.text.toList.splitOn ' ').map String.ofList := (splitOn_join hsep h hne).symm
      _ = (line'.text.toList.splitOn ' ').map String.ofList := by rw [htext]
      _ = line' := splitOn_join hsep h' hne'
  · rintro rfl
    rfl

theorem natText_injective : Function.Injective natText := by
  intro m n h
  have hdigits : Nat.toDigits 10 m = Nat.toDigits 10 n := by
    simpa [natText] using congrArg String.toList h
  rw [← Nat.ofDigitChars_ten_toDigits (n := m), hdigits, Nat.ofDigitChars_ten_toDigits]

/-! ### Contents that are written alike -/

/-- **Contents of a slot that are written alike.** A switch is written if it is on; a list is
written with commas between its items; numbers and texts are written as they are. -/
def SlotType.WrittenAlike : (type : SlotType) → Option type.Carrier → Option type.Carrier → Prop
  | .flag, x, y => x = some true ↔ y = some true
  | .port, x, y => x = y
  | .count, x, y => x = y
  | .text, x, y => x = y
  | .texts, x, y => x.map (join ",") = y.map (join ",")

/-- **Options that are written alike**, slot by slot. -/
def ServerOptions.WrittenAlike (a b : ServerOptions) : Prop :=
  ∀ slot : ServerSlot, slot.type.WrittenAlike (a.get slot) (b.get slot)

/-- The words that follow the keyword of a slot, where it is written. -/
def SlotType.values : (type : SlotType) → Option type.Carrier → Option Line
  | .flag, x => if x = some true then some [] else none
  | .port, x => x.map fun n => [natText n]
  | .count, x => x.map fun n => [natText n]
  | .text, x => x.map fun s => [s]
  | .texts, x => x.map fun items => [join "," items]

section Slots

variable {type : SlotType} {x y : Option type.Carrier}

theorem SlotType.values_eq_iff : type.values x = type.values y ↔ type.WrittenAlike x y := by
  have hnumber : Function.Injective fun n => [natText n] :=
    fun m n h => natText_injective (List.singleton_inj.1 h)
  cases type with
  | flag =>
    by_cases hx : x = some true <;> by_cases hy : y = some true <;>
      simp [values, WrittenAlike, hx, hy]
  | port => exact (Option.map_injective hnumber).eq_iff
  | count => exact (Option.map_injective hnumber).eq_iff
  | text => exact (Option.map_injective fun _ _ h => List.singleton_inj.1 h).eq_iff
  | texts => cases x <;> cases y <;> simp [values, WrittenAlike]

theorem SlotType.values_none : type.values none = none := by
  cases type <;> rfl

theorem SlotType.words_eq (keyword : String) (value : type.Carrier) :
    type.words keyword value = (type.values (some value)).elim [] (keyword :: ·) := by
  cases type with
  | flag => cases value <;> rfl
  | port | count | text | texts => rfl

/-- The type of a slot says how many words follow its keyword. -/
theorem SlotType.length_values {words : Line} (h : type.values x = some words) :
    words.length = if type = .flag then 0 else 1 := by
  cases type with
  | flag =>
    rw [values, Option.ite_none_right_eq_some] at h
    rw [← Option.some.inj h.2]
    rfl
  | port | count | text | texts =>
    obtain ⟨value, -, rfl⟩ := Option.map_eq_some_iff.1 h
    rfl

theorem SlotType.unspaced_values {words : Line} (hx : Unspaced x) (h : type.values x = some words) :
    ∀ word ∈ words, ' ' ∉ word.toList := by
  cases type with
  | flag =>
    rw [values, Option.ite_none_right_eq_some] at h
    rw [← Option.some.inj h.2]
    exact List.forall_mem_nil _
  | port | count =>
    obtain ⟨n, -, rfl⟩ := Option.map_eq_some_iff.1 h
    exact List.forall_mem_singleton.2 (notMem_natText (by decide) n)
  | text =>
    obtain ⟨text, rfl, rfl⟩ := Option.map_eq_some_iff.1 h
    exact hx
  | texts =>
    obtain ⟨items, rfl, rfl⟩ := Option.map_eq_some_iff.1 h
    refine List.forall_mem_singleton.2 (notMem_join (by decide) fun item hitem => ?_)
    exact hx item (by simp [strings, hitem])

end Slots

namespace ServerSlot

variable {slot : ServerSlot} {x y : Option slot.type.Carrier} {rest rest' : Line}

theorem words_eq : slot.words x = (slot.type.values x).elim [] (slot.keyword :: ·) := by
  cases x with
  | none => rw [SlotType.values_none, words, Option.elim_none]
  | some value => exact SlotType.words_eq slot.keyword value

theorem keyword_injective : Function.Injective keyword := by
  have hnodup : (all.map keyword).Nodup := by decide +kernel
  intro slot other h
  exact List.inj_on_of_nodup_map hnodup slot.mem_all other.mem_all h

/-- **One slot can be read off in front of the others.** If the words that follow do not start with
its keyword, the next word tells whether the slot is written, and its type how many words are its
own. -/
theorem words_append_inj (h : rest.head? ≠ some slot.keyword)
    (h' : rest'.head? ≠ some slot.keyword) :
    slot.words x ++ rest = slot.words y ++ rest' ↔
      slot.type.WrittenAlike x y ∧ rest = rest' := by
  rw [words_eq, words_eq, ← SlotType.values_eq_iff]
  cases hx : slot.type.values x with
  | none =>
    cases hy : slot.type.values y with
    | none => simp
    | some words =>
      refine iff_of_false ?_ (by simp)
      rintro rfl
      exact h rfl
  | some words =>
    cases hy : slot.type.values y with
    | none =>
      refine iff_of_false ?_ (by simp)
      rintro rfl
      exact h' rfl
    | some words' =>
      have hlength := (SlotType.length_values hx).trans (SlotType.length_values hy).symm
      rw [Option.elim_some, Option.elim_some, List.cons_append, List.cons_append,
        List.cons_inj_right, Option.some_inj]
      constructor
      · exact fun heq => List.append_inj heq hlength
      · rintro ⟨rfl, rfl⟩
        rfl

end ServerSlot

/-! ### Options on a line -/

namespace ServerOptions

variable {options a b : ServerOptions} {slots : List ServerSlot}

/-- What is written for some slots starts with the keyword of one of them. -/
theorem exists_keyword_of_head? {word : String}
    (h : (slots.flatMap fun slot => slot.words (options.get slot)).head? = some word) :
    ∃ slot ∈ slots, slot.keyword = word := by
  induction slots with
  | nil => cases h
  | cons slot slots ih =>
    rw [List.flatMap_cons, ServerSlot.words_eq] at h
    cases hvalues : slot.type.values (options.get slot) with
    | none =>
      rw [hvalues] at h
      obtain ⟨other, hother, hword⟩ := ih h
      exact ⟨other, List.mem_cons_of_mem _ hother, hword⟩
    | some words =>
      rw [hvalues] at h
      exact ⟨slot, List.mem_cons_self, Option.some.inj h⟩

/-- **The options of different slots can be read off what is written for them.** The induction is on
the slots that are still to be read. -/
theorem flatMap_words_eq_iff (hnodup : slots.Nodup) :
    (slots.flatMap fun slot => slot.words (a.get slot)) =
        (slots.flatMap fun slot => slot.words (b.get slot)) ↔
      ∀ slot ∈ slots, slot.type.WrittenAlike (a.get slot) (b.get slot) := by
  induction slots with
  | nil => simp
  | cons slot slots ih =>
    obtain ⟨hslot, hslots⟩ := List.nodup_cons.1 hnodup
    -- a later slot with the same keyword would be the same slot
    have hhead (options : ServerOptions) :
        (slots.flatMap fun slot => slot.words (options.get slot)).head? ≠ some slot.keyword := by
      intro h
      obtain ⟨other, hother, hkeyword⟩ := exists_keyword_of_head? h
      exact hslot (ServerSlot.keyword_injective hkeyword ▸ hother)
    rw [List.flatMap_cons, List.flatMap_cons, ServerSlot.words_append_inj (hhead a) (hhead b),
      ih hslots, List.forall_mem_cons]

theorem words_eq_iff : a.words = b.words ↔ a.WrittenAlike b := by
  have hnodup : ServerSlot.all.Nodup := by decide
  rw [words, words, flatMap_words_eq_iff hnodup]
  exact ⟨fun h slot => h slot slot.mem_all, fun h slot _ => h slot⟩

theorem unspaced_words (h : Unspaced options) : ∀ word ∈ options.words, ' ' ∉ word.toList := by
  rw [words, List.forall_mem_flatMap]
  intro slot hslot
  have hget : Unspaced (options.get slot) := (List.forall_mem_flatMap.1 h) slot hslot
  rw [ServerSlot.words_eq]
  cases hvalues : slot.type.values (options.get slot) with
  | none => exact List.forall_mem_nil _
  | some words =>
    have hkeyword : ' ' ∉ slot.keyword.toList := by cases slot <;> decide
    exact List.forall_mem_cons.2 ⟨hkeyword, SlotType.unspaced_values hget hvalues⟩

end ServerOptions

/-! ### Whole lines -/

namespace ServerLine

instance : Worded ServerLine where
  strings
    | defaults options => strings options
    | family servers => strings servers
    | server member => strings member

/-- **What is written alike**: lines of one kind that agree in their leading texts, in the address
with the port, and in their options as these are written. -/
def WrittenAlike : ServerLine → ServerLine → Prop
  | defaults a, defaults b => a.WrittenAlike b
  | family a, family b =>
    a.stem = b.stem ∧ a.count = b.count ∧
      Layout.address a.fqdn a.port = Layout.address b.fqdn b.port ∧
      a.options.WrittenAlike b.options
  | server a, server b =>
    a.name = b.name ∧ Layout.address a.address a.port = Layout.address b.address b.port ∧
      a.options.WrittenAlike b.options
  | _, _ => False

variable {a b : ServerLine}

/-- **Lines have the same words exactly if they are written for the same.** -/
theorem line_eq_iff : a.line = b.line ↔ a.WrittenAlike b := by
  cases a with
  | defaults options =>
    cases b with
    | defaults options' =>
      simp only [line, ServerOptions.defaultLine, List.cons_inj_right, ServerOptions.words_eq_iff,
        WrittenAlike]
    | family servers => simp [line, ServerOptions.defaultLine, ServerTemplate.line, WrittenAlike]
    | server member => simp [line, ServerOptions.defaultLine, Server.line, WrittenAlike]
  | family servers =>
    cases b with
    | defaults options =>
      simp [line, ServerOptions.defaultLine, ServerTemplate.line, WrittenAlike]
    | family servers' =>
      simp only [line, ServerTemplate.line, List.cons_append, List.nil_append, List.cons.injEq,
        true_and, ServerOptions.words_eq_iff, WrittenAlike]
    | server member => simp [line, ServerTemplate.line, Server.line, WrittenAlike]
  | server member =>
    cases b with
    | defaults options => simp [line, ServerOptions.defaultLine, Server.line, WrittenAlike]
    | family servers => simp [line, ServerTemplate.line, Server.line, WrittenAlike]
    | server member' =>
      simp only [line, Server.line, List.cons_append, List.nil_append, List.cons.injEq, true_and,
        ServerOptions.words_eq_iff, WrittenAlike]

theorem line_ne_nil : a.line ≠ [] := by
  cases a <;> exact List.cons_ne_nil _ _

theorem unspaced_line (h : Unspaced a) : ∀ word ∈ a.line, ' ' ∉ word.toList := by
  have haddress {host : String} (port : Option Nat) (hhost : ' ' ∉ host.toList) :
      ' ' ∉ (Layout.address host port).toList := by
    cases port with
    | none => exact hhost
    | some n => simp [Layout.address, hhost, notMem_natText]
  cases a with
  | defaults options =>
    exact List.forall_mem_cons.2 ⟨by decide, ServerOptions.unspaced_words h⟩
  | family servers =>
    have htexts : ∀ s ∈ servers.stem :: servers.count :: servers.fqdn :: strings servers.options,
        ' ' ∉ s.toList := h
    simp only [List.forall_mem_cons] at htexts
    obtain ⟨hstem, hcount, hfqdn, hoptions⟩ := htexts
    simp only [line, ServerTemplate.line, List.forall_mem_append, List.forall_mem_cons]
    exact ⟨⟨by decide, hstem, hcount, haddress servers.port hfqdn, List.forall_mem_nil _⟩,
      ServerOptions.unspaced_words hoptions⟩
  | server member =>
    have htexts : ∀ s ∈ member.name :: member.address :: strings member.options,
        ' ' ∉ s.toList := h
    simp only [List.forall_mem_cons] at htexts
    obtain ⟨hname, hhost, hoptions⟩ := htexts
    simp only [line, Server.line, List.forall_mem_append, List.forall_mem_cons]
    exact ⟨⟨by decide, hname, haddress member.port hhost, List.forall_mem_nil _⟩,
      ServerOptions.unspaced_words hoptions⟩

/-- **Lines with the options of servers tell what they were written for.** If no text has a space,
two of them are the same text exactly if they are of one kind and written alike: the leading texts
and the addresses with their ports agree, numbers and texts are both unset or equal, lists are both
unset or equal when joined by commas, and switches are on in both or in neither. -/
theorem text_eq_iff_writtenAlike (a b : ServerLine) (ha : Unspaced a) (hb : Unspaced b) :
    a.line.text = b.line.text ↔ a.WrittenAlike b := by
  rw [Layout.Line.text_inj (unspaced_line ha) (unspaced_line hb) line_ne_nil line_ne_nil,
    line_eq_iff]

/-- A server with an empty name, and with values that are spelled like keywords or empty. -/
def tangledServer : Server where
  name := ""
  address := "check"
  port := some 80
  options := {
    check := some false, rise := some 3, verify := some "ca-file", caFile := some "",
    alpn := some ["h2", "http/1.1"], source := some "tfo", tfo := some true }

/-- Another server with the same line. -/
def tangledTwin : Server where
  name := ""
  address := "check:80"
  options := {
    rise := some 3, verify := some "ca-file", caFile := some "",
    alpn := some ["h2,http/1.1"], backup := some false, source := some "tfo", tfo := some true }

theorem text_eq_iff_writtenAlike_tangledServer :
    Unspaced (server tangledServer) ∧ Unspaced (server tangledTwin) ∧
      (server tangledServer).line.text =
        "server  check:80 rise 3 verify ca-file ca-file  alpn h2,http/1.1 source tfo tfo" ∧
      (server tangledServer).WrittenAlike (server tangledTwin) := by
  have hserver : Unspaced (server tangledServer) := by decide +kernel
  have htwin : Unspaced (server tangledTwin) := by decide +kernel
  have htext : (server tangledServer).line.text = (server tangledTwin).line.text := by
    decide +kernel
  exact ⟨hserver, htwin, by decide +kernel,
    (text_eq_iff_writtenAlike _ _ hserver htwin).1 htext⟩

end ServerLine

end Balancer
