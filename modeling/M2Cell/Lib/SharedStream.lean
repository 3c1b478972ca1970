import Mathlib.Data.List.Basic
import Mathlib.Data.List.GetD
import Mathlib.Data.List.Nodup
import Mathlib.Data.List.Perm.Basic
import Mathlib.Data.List.Range
import Mathlib.Logic.Function.Basic

/-!
# Texts written in parts to one stream

Several texts go to one stream.  Each of them is written in parts, and a part of one
text may come between two parts of another.  Every item of the stream carries the
number of the text that it belongs to.

`Unmixed` says that the stream is one text after the other, the last one perhaps not
finished, and that a text comes after those that it needs.  `unmixed_send_iff` says
which parts keep a stream so, and `Concatenated` is what is left of it for a reader who
does not see the numbers.
-/

namespace M2Cell

/-- Texts and the stream to which they are written. -/
structure SharedStream (β : Type*) where
  texts : List (List β)
  /-- How much of a text has been sent. -/
  sent : ℕ → ℕ
  stream : List (ℕ × β)
  sent_le : ∀ i, sent i ≤ (texts.getD i []).length

namespace SharedStream

variable {β : Type*}

/-- No text yet. -/
def empty : SharedStream β where
  texts := []
  sent _ := 0
  stream := []
  sent_le _ := Nat.zero_le _

variable (s : SharedStream β)

def text (i : ℕ) : List β := s.texts.getD i []

/-- What is left of a text. -/
def rest (i : ℕ) : List β := (s.text i).drop (s.sent i)

/-- The part of a text that has been sent. -/
def sentPart (i : ℕ) : List β := (s.text i).take (s.sent i)

/-- A part of the given length is not empty and is left to be sent. -/
def CanSend (i n : ℕ) : Prop := 0 < n ∧ n ≤ (s.rest i).length

instance (i n : ℕ) : Decidable (s.CanSend i n) :=
  inferInstanceAs (Decidable (_ ∧ _))

theorem CanSend.le {s : SharedStream β} {i n : ℕ} (h : s.CanSend i n) :
    s.sent i + n ≤ (s.text i).length := by
  have hrest := h.2
  have hsent : s.sent i ≤ (s.text i).length := s.sent_le i
  rw [rest, List.length_drop] at hrest
  omega

/-- A text that is not started has not been sent. -/
theorem sent_eq_zero {i : ℕ} (h : s.texts.length ≤ i) : s.sent i = 0 := by
  have hle := s.sent_le i
  rw [List.getD_eq_default _ _ h] at hle
  exact Nat.le_zero.mp hle

theorem getD_append_singleton {texts : List (List β)} {text : List β} {i : ℕ}
    (h : i ≠ texts.length) : (texts ++ [text]).getD i [] = texts.getD i [] := by
  rcases Nat.lt_or_gt_of_ne h with hlt | hgt
  · exact List.getD_append _ _ _ _ hlt
  · rw [List.getD_eq_default _ _ (by rw [List.length_append, List.length_singleton]; omega),
      List.getD_eq_default _ _ hgt.le]

/-- Start a text. -/
def start (text : List β) : SharedStream β where
  texts := s.texts ++ [text]
  sent := s.sent
  stream := s.stream
  sent_le i := by
    by_cases hi : i = s.texts.length
    · rw [s.sent_eq_zero hi.ge]
      exact Nat.zero_le _
    · rw [getD_append_singleton hi]
      exact s.sent_le i

/-- Send a part of a text. -/
def send (i n : ℕ) : SharedStream β :=
  if h : s.CanSend i n then
    { texts := s.texts
      sent := Function.update s.sent i (s.sent i + n)
      stream := s.stream ++ ((s.rest i).take n).map (Prod.mk i)
      sent_le := fun j => by
        by_cases hj : j = i
        · rw [hj, Function.update_self]
          exact h.le
        · rw [Function.update_of_ne hj]
          exact s.sent_le j }
  else s

/-- The stream for a reader who does not see the numbers. -/
def items : List β := s.stream.map Prod.snd

/-- Some of the text has been sent, and some has not. -/
def Partly (i : ℕ) : Prop := 0 < s.sent i ∧ s.sent i < (s.text i).length

/-- All of the text has been sent. -/
def Whole (i : ℕ) : Prop := 0 < s.sent i ∧ s.sent i = (s.text i).length

instance (i : ℕ) : Decidable (s.Partly i) :=
  inferInstanceAs (Decidable (_ ∧ _))

instance (i : ℕ) : Decidable (s.Whole i) :=
  inferInstanceAs (Decidable (_ ∧ _))

variable {s} {i j n : ℕ}

/-! ## What a part changes -/

theorem length_texts_start (text : List β) :
    (s.start text).texts.length = s.texts.length + 1 :=
  List.length_append

theorem sentPart_start (text : List β) (i : ℕ) :
    (s.start text).sentPart i = s.sentPart i := by
  by_cases hi : i = s.texts.length
  · show List.take (s.sent i) _ = List.take (s.sent i) _
    rw [s.sent_eq_zero hi.ge, List.take_zero, List.take_zero]
  · exact congrArg (List.take (s.sent i)) (getD_append_singleton hi)

theorem texts_send : (s.send i n).texts = s.texts := by
  unfold send
  split_ifs <;> rfl

theorem text_send (j : ℕ) : (s.send i n).text j = s.text j := by
  unfold send
  split_ifs <;> rfl

theorem sent_send (h : s.CanSend i n) : (s.send i n).sent i = s.sent i + n := by
  rw [send, dif_pos h]
  exact Function.update_self ..

theorem sent_send_of_ne (hne : j ≠ i) : (s.send i n).sent j = s.sent j := by
  unfold send
  split_ifs
  · exact Function.update_of_ne hne ..
  · rfl

theorem sentPart_send (h : s.CanSend i n) :
    (s.send i n).sentPart i = s.sentPart i ++ (s.rest i).take n := by
  rw [sentPart, text_send, sent_send h, List.take_add]
  rfl

theorem sentPart_send_of_ne (hne : j ≠ i) : (s.send i n).sentPart j = s.sentPart j := by
  rw [sentPart, sentPart, text_send, sent_send_of_ne hne]

theorem stream_send (h : s.CanSend i n) :
    (s.send i n).stream = s.stream ++ ((s.rest i).take n).map (Prod.mk i) := by
  rw [send, dif_pos h]

/-- A part is not empty. -/
theorem CanSend.part_ne_nil (h : s.CanSend i n) : (s.rest i).take n ≠ [] := by
  intro hnil
  have hlength := congrArg List.length hnil
  rw [List.length_take, Nat.min_eq_left h.2, List.length_nil] at hlength
  exact absurd h.1 (by omega)

theorem pos_sent_send (h : s.CanSend i n) : 0 < (s.send i n).sent j ↔ 0 < s.sent j ∨ j = i := by
  by_cases hj : j = i
  · rw [hj, sent_send h]
    have hpos := h.1
    exact iff_of_true (by omega) (Or.inr rfl)
  · rw [sent_send_of_ne hj, or_iff_left hj]

/-! ## One text after the other -/

/-- The texts of which something was sent in an order: all but the last are finished,
and a text comes after those that it needs. -/
structure Serial (needs : ℕ → ℕ → Prop) (s : SharedStream β) (order : List ℕ) : Prop where
  nodup : order.Nodup
  mem_iff : ∀ i, i ∈ order ↔ 0 < s.sent i
  last : ∀ i ∈ order, s.sent i < (s.text i).length → order.getLast? = some i
  needed : ∀ i ∈ order, ∀ j, needs j i → order.idxOf j < order.idxOf i

/-- The stream is one text after the other. -/
def Unmixed (needs : ℕ → ℕ → Prop) (s : SharedStream β) : Prop :=
  ∃ order, Serial needs s order ∧
    s.stream = order.flatMap fun i => (s.sentPart i).map (Prod.mk i)

/-- The items are those of one text after the other. -/
def Concatenated (needs : ℕ → ℕ → Prop) (s : SharedStream β) : Prop :=
  ∃ order, Serial needs s order ∧ s.items = order.flatMap s.sentPart

/-- If the part is sent, no other text is partly sent, and those that the text needs
are finished. -/
def Alone (needs : ℕ → ℕ → Prop) (s : SharedStream β) (i n : ℕ) : Prop :=
  s.CanSend i n → (∀ j, j ≠ i → ¬ s.Partly j) ∧ ∀ j, needs j i → s.Whole j

variable {needs : ℕ → ℕ → Prop} {order : List ℕ}

theorem unmixed_empty : Unmixed needs (empty : SharedStream β) := by
  refine ⟨[], ⟨List.nodup_nil, fun i => ?_, fun i hi => ?_, fun i hi => ?_⟩, rfl⟩
  · exact iff_of_false List.not_mem_nil (lt_irrefl 0)
  · exact absurd hi List.not_mem_nil
  · exact absurd hi List.not_mem_nil

theorem Unmixed.concatenated (h : s.Unmixed needs) : s.Concatenated needs := by
  obtain ⟨order, hserial, hstream⟩ := h
  refine ⟨order, hserial, ?_⟩
  rw [items, hstream, List.map_flatMap]
  refine List.flatMap_congr fun i _ => ?_
  rw [List.map_map]
  exact List.map_id _

/-- When everything is sent, the items are the texts, each once. -/
theorem Concatenated.finished (h : s.Concatenated needs)
    (hall : ∀ i < s.texts.length, s.Whole i) :
    ∃ order : List ℕ, order.Perm (List.range s.texts.length) ∧ s.items = order.flatMap s.text ∧
      ∀ i ∈ order, ∀ j, needs j i → order.idxOf j < order.idxOf i := by
  obtain ⟨order, hserial, hitems⟩ := h
  have hmem (i : ℕ) : i ∈ order ↔ i < s.texts.length := by
    rw [hserial.mem_iff]
    refine ⟨fun hpos => ?_, fun hlt => (hall i hlt).1⟩
    by_contra hge
    rw [s.sent_eq_zero (not_lt.mp hge)] at hpos
    exact absurd hpos (lt_irrefl 0)
  refine ⟨order, ?_, ?_, hserial.needed⟩
  · refine (List.perm_ext_iff_of_nodup hserial.nodup List.nodup_range).mpr fun i => ?_
    rw [hmem, List.mem_range]
  · rw [hitems]
    refine List.flatMap_congr fun i hi => ?_
    rw [sentPart, (hall i ((hmem i).mp hi)).2, List.take_length]

/-! ## Starting and sending -/

theorem Serial.start (h : Serial needs s order) {needs' : ℕ → ℕ → Prop}
    (hneeds : ∀ i j, i < s.texts.length → needs' j i → needs j i) (text : List β) :
    Serial needs' (s.start text) order := by
  have hlt (i : ℕ) (hi : i ∈ order) : i < s.texts.length := by
    by_contra hge
    have hpos := (h.mem_iff i).mp hi
    rw [s.sent_eq_zero (not_lt.mp hge)] at hpos
    exact absurd hpos (lt_irrefl 0)
  refine ⟨h.nodup, h.mem_iff, fun i hi hpart => h.last i hi ?_,
    fun i hi j hj => h.needed i hi j (hneeds i j (hlt i hi) hj)⟩
  rwa [SharedStream.text, SharedStream.start, getD_append_singleton (hlt i hi).ne] at hpart

/-- A text that is started waits for its first part. -/
theorem Unmixed.start (h : s.Unmixed needs) {needs' : ℕ → ℕ → Prop}
    (hneeds : ∀ i j, i < s.texts.length → needs' j i → needs j i) (text : List β) :
    (s.start text).Unmixed needs' := by
  obtain ⟨order, hserial, hstream⟩ := h
  refine ⟨order, hserial.start hneeds text, ?_⟩
  simp only [sentPart_start]
  exact hstream

/-- In an order, a text before another one is finished. -/
theorem Serial.whole_of_idxOf_lt (h : Serial needs s order) (hi : i ∈ order)
    (hlt : order.idxOf j < order.idxOf i) : s.Whole j := by
  have hj : j ∈ order := by
    have hlength := List.idxOf_lt_length_of_mem hi
    exact List.idxOf_lt_length_iff.mp (hlt.trans hlength)
  have hpos := (h.mem_iff j).mp hj
  refine ⟨hpos, le_antisymm (s.sent_le j) (not_lt.mp fun hpart => ?_)⟩
  obtain ⟨before, rfl⟩ := List.getLast?_eq_some_iff.mp (h.last j hj hpart)
  have hnotMem : j ∉ before := by
    have hdisjoint := (List.nodup_append.mp h.nodup).2.2
    exact fun hmem => hdisjoint j hmem j (List.mem_singleton_self j) rfl
  rw [List.idxOf_append_of_notMem hnotMem, List.idxOf_cons_self] at hlt
  rcases List.mem_append.mp hi with hbefore | hlast
  · rw [List.idxOf_append_of_mem hbefore] at hlt
    have hlength := List.idxOf_lt_length_of_mem hbefore
    omega
  · rw [List.mem_singleton.mp hlast, List.idxOf_append_of_notMem hnotMem,
      List.idxOf_cons_self] at hlt
    exact absurd hlt (lt_irrefl _)

/-- The next part of the text that is last. -/
theorem Serial.send_begun (h : Serial needs s order) (hsend : s.CanSend i n)
    (hi : i ∈ order) : Serial needs (s.send i n) order where
  nodup := h.nodup
  mem_iff j := by
    rw [pos_sent_send hsend, h.mem_iff j]
    refine ⟨Or.inl, fun hor => hor.elim id fun hj => ?_⟩
    rw [hj]
    exact (h.mem_iff i).mp hi
  last j hj hpart := by
    by_cases hne : j = i
    · subst hne
      have hle := hsend.le
      have hpos := hsend.1
      exact h.last j hj (by omega)
    · rw [sent_send_of_ne hne, text_send] at hpart
      exact h.last j hj hpart
  needed := h.needed

/-- The first part of a text, when the others are finished. -/
theorem Serial.send_new (h : Serial needs s order) (hsend : s.CanSend i n) (hi : i ∉ order)
    (hfinished : ∀ j, j ≠ i → ¬ s.Partly j) (hneeds : ∀ j, needs j i → s.Whole j) :
    Serial needs (s.send i n) (order ++ [i]) where
  nodup := List.nodup_append.mpr ⟨h.nodup, List.nodup_singleton i, fun j hj k hk hjk => hi <| by
    rw [← List.mem_singleton.mp hk, ← hjk]
    exact hj⟩
  mem_iff j := by rw [List.mem_append, List.mem_singleton, pos_sent_send hsend, h.mem_iff j]
  last j hj hpart := by
    rw [List.getLast?_append, List.getLast?_singleton, Option.some_or]
    by_contra hne
    have hji : j ≠ i := fun heq => hne (congrArg some heq.symm)
    have hmem : j ∈ order := (List.mem_append.mp hj).resolve_right
      fun hlast => hji (List.mem_singleton.mp hlast)
    rw [sent_send_of_ne hji, text_send] at hpart
    exact hfinished j hji ⟨(h.mem_iff j).mp hmem, hpart⟩
  needed k hk j hj := by
    rcases List.mem_append.mp hk with hold | hnew
    · have hlt := h.needed k hold j hj
      have hjmem : j ∈ order :=
        List.idxOf_lt_length_iff.mp (hlt.trans (List.idxOf_lt_length_of_mem hold))
      rwa [List.idxOf_append_of_mem hold, List.idxOf_append_of_mem hjmem]
    · rw [List.mem_singleton.mp hnew] at hj ⊢
      have hjmem : j ∈ order := (h.mem_iff j).mpr (hneeds j hj).1
      rw [List.idxOf_append_of_mem hjmem, List.idxOf_append_of_notMem hi, List.idxOf_cons_self]
      exact List.idxOf_lt_length_of_mem hjmem

/-- The part of a text that was sent before, in an order without the text. -/
theorem flatMap_send (hi : i ∉ order) :
    (order.flatMap fun j => ((s.send i n).sentPart j).map (Prod.mk j)) =
      order.flatMap fun j => (s.sentPart j).map (Prod.mk j) := by
  refine List.flatMap_congr fun j hj => ?_
  have hne : j ≠ i := by
    rintro rfl
    exact hi hj
  rw [sentPart_send_of_ne hne]

/-- A part that is sent alone goes on the end of the last text, or starts one. -/
theorem Unmixed.send (h : s.Unmixed needs) (hsend : s.CanSend i n)
    (hfinished : ∀ j, j ≠ i → ¬ s.Partly j) (hneeds : ∀ j, needs j i → s.Whole j) :
    (s.send i n).Unmixed needs := by
  obtain ⟨order, hserial, hstream⟩ := h
  by_cases hi : i ∈ order
  · -- the text is begun and not finished, so it is the last one
    refine ⟨order, hserial.send_begun hsend hi, ?_⟩
    have hle := hsend.le
    have hpos := hsend.1
    obtain ⟨before, rfl⟩ := List.getLast?_eq_some_iff.mp (hserial.last i hi (by omega))
    have hnotMem : i ∉ before := by
      have hdisjoint := (List.nodup_append.mp hserial.nodup).2.2
      exact fun hmem => hdisjoint i hmem i (List.mem_singleton_self i) rfl
    calc (s.send i n).stream
        = (before.flatMap fun j => (s.sentPart j).map (Prod.mk j)) ++
            ((s.sentPart i).map (Prod.mk i) ++ ((s.rest i).take n).map (Prod.mk i)) := by
          rw [stream_send hsend, hstream, List.flatMap_append, List.flatMap_singleton,
            List.append_assoc]
      _ = (before.flatMap fun j => ((s.send i n).sentPart j).map (Prod.mk j)) ++
            ((s.send i n).sentPart i).map (Prod.mk i) := by
          rw [flatMap_send hnotMem, sentPart_send hsend, List.map_append]
      _ = (before ++ [i]).flatMap fun j => ((s.send i n).sentPart j).map (Prod.mk j) := by
          rw [List.flatMap_append, List.flatMap_singleton]
  · -- the others are finished, and the text goes behind them
    refine ⟨order ++ [i], hserial.send_new hsend hi hfinished hneeds, ?_⟩
    have hzero : s.sentPart i = [] := by
      have hnot : s.sent i = 0 :=
        Nat.eq_zero_of_not_pos fun hpos => hi ((hserial.mem_iff i).mpr hpos)
      rw [sentPart, hnot, List.take_zero]
    calc (s.send i n).stream
        = (order.flatMap fun j => (s.sentPart j).map (Prod.mk j)) ++
            ((s.rest i).take n).map (Prod.mk i) := by rw [stream_send hsend, hstream]
      _ = (order.flatMap fun j => ((s.send i n).sentPart j).map (Prod.mk j)) ++
            ((s.send i n).sentPart i).map (Prod.mk i) := by
          rw [flatMap_send hi, sentPart_send hsend, hzero, List.nil_append]
      _ = (order ++ [i]).flatMap fun j => ((s.send i n).sentPart j).map (Prod.mk j) := by
          rw [List.flatMap_append, List.flatMap_singleton]

/-- The last item of the stream belongs to the text of the part. -/
theorem getLast?_stream_send (hsend : s.CanSend i n) :
    ∃ item, (s.send i n).stream.getLast? = some (i, item) := by
  rw [stream_send hsend, List.getLast?_append, List.getLast?_map]
  have hlast := List.getLast?_eq_some_getLast hsend.part_ne_nil
  rw [hlast]
  exact ⟨_, rfl⟩

/-- After a part, no other text is partly sent. -/
theorem Unmixed.alone_of_send (h : (s.send i n).Unmixed needs) (hsend : s.CanSend i n) :
    (∀ j, j ≠ i → ¬ s.Partly j) ∧ ∀ j, needs j i → s.Whole j := by
  obtain ⟨order, hserial, hstream⟩ := h
  constructor
  · intro j hj hpartly
    have hsent : (s.send i n).sent j = s.sent j := sent_send_of_ne hj
    have hmem : j ∈ order := by
      rw [hserial.mem_iff, hsent]
      exact hpartly.1
    have hlast := hserial.last j hmem (by rw [hsent, text_send]; exact hpartly.2)
    obtain ⟨before, rfl⟩ := List.getLast?_eq_some_iff.mp hlast
    obtain ⟨item, hitem⟩ := getLast?_stream_send hsend
    -- the stream ends with an item of `j`, and the part with one of `i`
    have hpart : (s.send i n).sentPart j ≠ [] := by
      rw [sentPart_send_of_ne hj, sentPart]
      intro hnil
      have hlength := congrArg List.length hnil
      have hpos := hpartly.1
      have hlt := hpartly.2
      rw [List.length_take, List.length_nil] at hlength
      omega
    rw [hstream, List.flatMap_append, List.flatMap_singleton, List.getLast?_append,
      List.getLast?_map, List.getLast?_eq_some_getLast hpart] at hitem
    exact hj (congrArg Prod.fst (Option.some.inj hitem))
  · intro j hj
    have hmem : i ∈ order := by
      rw [hserial.mem_iff, pos_sent_send hsend]
      exact Or.inr rfl
    have hlt := hserial.needed i hmem j hj
    have hne : j ≠ i := by
      rintro rfl
      exact absurd hlt (lt_irrefl _)
    have hwhole := hserial.whole_of_idxOf_lt hmem hlt
    rwa [Whole, sent_send_of_ne hne, text_send] at hwhole

/-- **A part keeps the texts apart** exactly when it is sent alone. -/
theorem unmixed_send_iff (h : s.Unmixed needs) :
    (s.send i n).Unmixed needs ↔ s.Alone needs i n := by
  constructor
  · exact fun hafter hsend => hafter.alone_of_send hsend
  · intro halone
    by_cases hsend : s.CanSend i n
    · exact h.send hsend (halone hsend).1 (halone hsend).2
    · rwa [SharedStream.send, dif_neg hsend]

end SharedStream

end M2Cell
