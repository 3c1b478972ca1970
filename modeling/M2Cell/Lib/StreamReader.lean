import M2Cell.Lib.SharedStream

/-!
# A reader of a shared stream

A reader takes whole texts from a stream to which texts are written one after the other.
What it has not read begins at a text, parts that are sent go on the end of it
(`Reading.send`), and when the next text is there it is whole, or it is the last one
(`Reading.eq_nil_of_partly`).  The reader has each text after those that it needs
(`Reading.mem_done`).

`Reading` splits the texts of which something was sent into those that the reader has taken and
those that are unread, in the order of sending.  That order is not the order of starting: a text
that is started waits until it is sent (`Reading.start`), and it can be sent when it is alone and
what it needs is there.  Of the unread texts all but the last are whole, so a reader that finds a
terminator has found the end of the first one (`Reading.take`).
-/

namespace M2Cell

namespace SharedStream

variable {β : Type*} {needs : ℕ → ℕ → Prop}

/-- The reader has taken the texts `done`, and parts of the texts `rest` are unread. -/
structure Reading (needs : ℕ → ℕ → Prop) (s : SharedStream β) (unread : List β)
    (done rest : List ℕ) : Prop where
  serial : Serial needs s (done ++ rest)
  whole : ∀ i ∈ done, s.Whole i
  unread : unread = rest.flatMap s.sentPart

variable {s : SharedStream β} {unread : List β} {done rest : List ℕ} {i j n : ℕ}

/-- A text of which something was sent is started. -/
theorem lt_length_of_pos (h : 0 < s.sent i) : i < s.texts.length := by
  by_contra hge
  rw [s.sent_eq_zero (not_lt.mp hge)] at h
  exact absurd h (lt_irrefl 0)

theorem text_start (text : List β) (h : i < s.texts.length) : (s.start text).text i = s.text i :=
  getD_append_singleton h.ne

theorem Whole.start (h : s.Whole i) (text : List β) : (s.start text).Whole i := by
  refine ⟨h.1, ?_⟩
  rw [text_start text (lt_length_of_pos h.1)]
  exact h.2

/-- A text that is started is not read before its first part. -/
theorem Reading.start (h : Reading needs s unread done rest) {needs' : ℕ → ℕ → Prop}
    (hneeds : ∀ i j, i < s.texts.length → needs' j i → needs j i) (text : List β) :
    Reading needs' (s.start text) unread done rest where
  serial := h.serial.start hneeds text
  whole i hi := (h.whole i hi).start text
  unread := by
    rw [h.unread]
    exact (List.flatMap_congr fun i _ => sentPart_start text i).symm

/-- A whole text is sent no further. -/
theorem CanSend.ne_of_whole (hsend : s.CanSend i n) (hwhole : s.Whole j) : j ≠ i := by
  rintro rfl
  have hle := hsend.le
  have hpos := hsend.1
  have hsent := hwhole.2
  omega

theorem Whole.send (h : s.Whole j) : (s.send i n).Whole j := by
  by_cases hsend : s.CanSend i n
  · have hne := hsend.ne_of_whole h
    rw [Whole, sent_send_of_ne hne, text_send]
    exact h
  · rwa [SharedStream.send, dif_neg hsend]

/-- **A part that is sent alone** goes on the end of what is unread. -/
theorem Reading.send (h : Reading needs s unread done rest) (hsend : s.CanSend i n)
    (halone : s.Alone needs i n) :
    ∃ rest', Reading needs (s.send i n) (unread ++ (s.rest i).take n) done rest' := by
  obtain ⟨hfinished, hneeds⟩ := halone hsend
  have hwhole (j : ℕ) (hj : j ∈ done) : (s.send i n).Whole j := (h.whole j hj).send
  have hsame (texts : List ℕ) (hi : i ∉ texts) :
      texts.flatMap (s.send i n).sentPart = texts.flatMap s.sentPart := by
    refine List.flatMap_congr fun j hj => sentPart_send_of_ne ?_
    rintro rfl
    exact hi hj
  by_cases hi : i ∈ done ++ rest
  · -- the text is begun and not finished, so it is the last one
    have hle := hsend.le
    have hpos := hsend.1
    have hlast := h.serial.last i hi (by omega)
    have hdone : i ∉ done := fun hmem => hsend.ne_of_whole (h.whole i hmem) rfl
    have hrest : rest ≠ [] := by
      rintro rfl
      exact hdone (by simpa using hi)
    rw [List.getLast?_append_of_ne_nil _ hrest] at hlast
    obtain ⟨before, rfl⟩ := List.getLast?_eq_some_iff.mp hlast
    have hbefore : i ∉ before := by
      have hnodup := (List.nodup_append.mp (List.nodup_append.mp h.serial.nodup).2.1).2.2
      exact fun hmem => hnodup i hmem i (List.mem_singleton_self i) rfl
    refine ⟨before ++ [i], h.serial.send_begun hsend hi, hwhole, ?_⟩
    rw [h.unread, List.flatMap_append, List.flatMap_append, hsame before hbefore,
      List.flatMap_singleton, List.flatMap_singleton, sentPart_send hsend, List.append_assoc]
  · refine ⟨rest ++ [i], ?_, hwhole, ?_⟩
    · rw [← List.append_assoc]
      exact h.serial.send_new hsend hi hfinished hneeds
    · have hnot : s.sent i = 0 :=
        Nat.eq_zero_of_not_pos fun hpos => hi ((h.serial.mem_iff i).mpr hpos)
      have hzero : s.sentPart i = [] := by rw [sentPart, hnot, List.take_zero]
      have hrest : i ∉ rest := fun hmem => hi (List.mem_append_right done hmem)
      rw [h.unread, List.flatMap_append, hsame rest hrest, List.flatMap_singleton,
        sentPart_send hsend, hzero, List.nil_append]

/-! ## The next text -/

section next

variable (h : Reading needs s unread done (i :: rest))
include h

theorem Reading.unread_of_whole (hwhole : s.Whole i) :
    unread = s.text i ++ rest.flatMap s.sentPart := by
  rw [h.unread, List.flatMap_cons, sentPart, hwhole.2, List.take_length]

/-- The reader takes the next text. -/
theorem Reading.take (hwhole : s.Whole i) :
    Reading needs s (rest.flatMap s.sentPart) (done ++ [i]) rest where
  serial := by
    rw [List.append_assoc]
    exact h.serial
  whole j hj := by
    obtain hold | hnew := List.mem_append.mp hj
    · exact h.whole j hold
    · rw [List.mem_singleton.mp hnew]
      exact hwhole
  unread := rfl

theorem Reading.notMem_done : i ∉ done := by
  have hdisjoint := (List.nodup_append.mp h.serial.nodup).2.2
  exact fun hmem => hdisjoint i hmem i List.mem_cons_self rfl

/-- A text that is not finished is the last one. -/
theorem Reading.eq_nil_of_partly (hpart : ¬ s.Whole i) :
    rest = [] ∧ s.sent i < (s.text i).length := by
  have hmem : i ∈ done ++ i :: rest := by simp
  have hpos := (h.serial.mem_iff i).mp hmem
  have hle : s.sent i ≤ (s.text i).length := s.sent_le i
  have hlt : s.sent i < (s.text i).length := lt_of_le_of_ne hle fun heq => hpart ⟨hpos, heq⟩
  have hlast := h.serial.last i hmem hlt
  have hnodup := (List.nodup_append.mp h.serial.nodup).2.1
  refine ⟨?_, hlt⟩
  rw [List.getLast?_append_of_ne_nil _ (List.cons_ne_nil i rest)] at hlast
  by_contra hrest
  obtain ⟨before, last, rfl⟩ := (List.eq_nil_or_concat' rest).resolve_left hrest
  rw [← List.cons_append, List.getLast?_concat] at hlast
  have hnotMem : i ∉ before ++ [last] := (List.nodup_cons.mp hnodup).1
  rw [Option.some.inj hlast] at hnotMem
  exact hnotMem (by simp)

/-- The texts that the next one needs have been read. -/
theorem Reading.mem_done (hneeds : needs j i) : j ∈ done := by
  have hmem : i ∈ done ++ i :: rest := by simp
  have hlt := h.serial.needed i hmem j hneeds
  have hi : (done ++ i :: rest).idxOf i = done.length := by
    rw [List.idxOf_append_of_notMem h.notMem_done, List.idxOf_cons_self, Nat.add_zero]
  rw [hi] at hlt
  by_contra hnot
  rw [List.idxOf_append_of_notMem hnot] at hlt
  omega

end next

end SharedStream

end M2Cell
