import RequestBook.Proofs.Source.Recount
import RequestBook.Proofs.Text.Bytes
import RequestBook.Source.LineCache

namespace RequestBook.LineCache

open RequestBook.Text

def byteEnds (offset : Nat) : List UInt8 → List Nat
  | [] => []
  | b :: rest =>
    if endsLine b rest then (offset + 1) :: byteEnds (offset + 1) rest
    else byteEnds (offset + 1) rest

theorem lt_of_mem_byteEnds {offset e : Nat} {unread : List UInt8}
    (h : e ∈ byteEnds offset unread) : offset < e := by
  induction unread generalizing offset with
  | nil => cases h
  | cons b rest ih =>
    rw [byteEnds] at h
    split at h
    · rcases List.mem_cons.mp h with rfl | h
      · exact Nat.lt_succ_self offset
      · exact Nat.lt_of_succ_lt (ih h)
    · exact Nat.lt_of_succ_lt (ih h)

theorem byteEnds_append_of_noBreak {bs : List UInt8} (h : ∀ b ∈ bs, b ≠ 10 ∧ b ≠ 13)
    (offset : Nat) (rest : List UInt8) :
    byteEnds offset (bs ++ rest) = byteEnds (offset + bs.length) rest := by
  induction bs generalizing offset with
  | nil => rfl
  | cons b bs ih =>
    obtain ⟨hlf, hcr⟩ := h b List.mem_cons_self
    have hends : endsLine b (bs ++ rest) = false := by simp [endsLine, hlf, hcr]
    rw [List.cons_append, byteEnds, hends, if_neg Bool.false_ne_true,
      ih fun b hb => h b (List.mem_cons_of_mem _ hb), List.length_cons]
    congr 1
    omega

theorem ne_lf_of_mem_utf8EncodeChar {c : Char} (hne : c ≠ '\n') {b : UInt8}
    (h : b ∈ String.utf8EncodeChar c) : b ≠ 10 :=
  ne_of_mem_utf8EncodeChar (d := '\n') (by decide) hne h

theorem ne_cr_of_mem_utf8EncodeChar {c : Char} (hne : c ≠ '\r') {b : UInt8}
    (h : b ∈ String.utf8EncodeChar c) : b ≠ 13 :=
  ne_of_mem_utf8EncodeChar (d := '\r') (by decide) hne h

theorem head?_bytes_ne_lf {s : List Char} (h : ∀ rest, s ≠ '\n' :: rest) :
    (bytes s).head? ≠ some 10 := by
  cases s with
  | nil =>
    intro hhead
    cases hhead
  | cons c s =>
    have hc : c ≠ '\n' := fun heq => h s (heq ▸ rfl)
    cases hbytes : String.utf8EncodeChar c with
    | nil => exact absurd hbytes String.utf8EncodeChar_ne_nil
    | cons b bs =>
      rw [bytes_cons, hbytes, List.cons_append, List.head?_cons]
      intro hhead
      apply ne_lf_of_mem_utf8EncodeChar hc (b := b)
      · rw [hbytes]
        exact List.mem_cons_self
      · exact Option.some.inj hhead

theorem byteEnds_bytes (offset : Nat) (s : List Char) :
    byteEnds offset (bytes s) = lineEnds offset s := by
  fun_induction lineEnds offset s with
  | case1 => rfl
  | case2 offset rest ih =>
    rw [← ih]
    rfl
  | case3 offset rest hlf ih =>
    have hends : endsLine 13 (bytes rest) = true := by
      simp [endsLine, head?_bytes_ne_lf hlf]
    rw [← ih]
    change (if endsLine 13 (bytes rest) then _ else _) = _
    rw [if_pos hends]
    rfl
  | case4 offset rest ih =>
    rw [← ih]
    rfl
  | case5 offset c rest hcrlf hcr hlf ih =>
    rw [bytes_cons, byteEnds_append_of_noBreak, String.length_utf8EncodeChar, ih]
    intro b hb
    exact ⟨ne_lf_of_mem_utf8EncodeChar hlf hb, ne_cr_of_mem_utf8EncodeChar hcr hb⟩

theorem partitionPoint_append {p : Nat → Bool} {ys zs : List Nat} (hy : ∀ y ∈ ys, p y = true)
    (hz : ∀ z ∈ zs, p z = false) : partitionPoint p (ys ++ zs) = ys.length := by
  suffices ∀ low high, low ≤ ys.length → ys.length ≤ high → high ≤ (ys ++ zs).length →
      partitionPoint.go p (ys ++ zs) low high = ys.length by
    apply this
    · exact Nat.zero_le _
    · rw [List.length_append]
      exact Nat.le_add_right _ _
    · exact Nat.le_refl _
  intro low high hlow hhigh hlength
  fun_induction partitionPoint.go p (ys ++ zs) low high with
  | case1 low high hlt x hx hp ih =>
    apply ih
    · apply Nat.lt_of_not_le
      intro hge
      rw [List.getElem?_append_right hge] at hx
      rw [hz x (List.mem_of_getElem? hx)] at hp
      exact Bool.false_ne_true hp
    · exact hhigh
    · exact hlength
  | case2 low high hlt x hx hp ih =>
    apply ih
    · exact hlow
    · apply Nat.le_of_not_lt
      intro hlt
      rw [List.getElem?_append_left hlt] at hx
      exact hp (hy x (List.mem_of_getElem? hx))
    · omega
  | case3 low high hlt hx =>
    rw [List.getElem?_eq_none_iff] at hx
    omega
  | case4 low high hlt => omega

structure Sound (s : List Char) (cache : LineCache) : Prop where
  source : cache.source = s
  starts : cache.starts ++ byteEnds cache.scanned cache.unread = lineStarts s
  scanned : cache.scanned + cache.unread.length = width s
  behind : ∀ start ∈ cache.starts, start ≤ cache.scanned

theorem sound_ofText (s : List Char) : Sound s (ofText s) where
  source := rfl
  starts := congrArg (0 :: ·) (byteEnds_bytes 0 s)
  scanned := by rw [ofText, Nat.zero_add, length_bytes]
  behind := by
    intro start hstart
    rw [List.mem_singleton.mp hstart]
    exact Nat.le_refl 0

theorem Sound.read {s : List Char} {cache : LineCache} {b : UInt8} {rest : List UInt8}
    (h : Sound s cache) (hunread : cache.unread = b :: rest) : Sound s (cache.read b rest) where
  source := h.source
  starts := by
    rw [← h.starts, hunread, byteEnds, LineCache.read]
    split
    · rw [List.append_assoc, List.singleton_append]
    · rfl
  scanned := by
    rw [← h.scanned, hunread, List.length_cons, LineCache.read, Nat.add_assoc, Nat.add_comm 1]
  behind := by
    intro start hstart
    rw [LineCache.read] at hstart ⊢
    split at hstart
    · rcases List.mem_append.mp hstart with hstart | hstart
      · exact Nat.le_succ_of_le (h.behind start hstart)
      · exact Nat.le_of_eq (List.mem_singleton.mp hstart)
    · exact Nat.le_succ_of_le (h.behind start hstart)

theorem Sound.readTo_go {s : List Char} {cache : LineCache} (h : Sound s cache) (target : Nat)
    {unread : List UInt8} (hunread : cache.unread = unread) :
    Sound s (readTo.go target cache unread) ∧
      min target (width s) ≤ (readTo.go target cache unread).scanned := by
  induction unread generalizing cache with
  | nil =>
    rw [readTo.go]
    refine ⟨h, ?_⟩
    have := h.scanned
    rw [hunread, List.length_nil] at this
    omega
  | cons b rest ih =>
    rw [readTo.go]
    split
    · exact ih (h.read hunread) rfl
    · exact ⟨h, by omega⟩

theorem Sound.readTo {s : List Char} {cache : LineCache} (h : Sound s cache) (target : Nat) :
    Sound s (cache.readTo target) :=
  (h.readTo_go target rfl).1

theorem Sound.le_scanned_readTo {s : List Char} {cache : LineCache} (h : Sound s cache)
    {target : Nat} (htarget : target ≤ width s) : target ≤ (cache.readTo target).scanned := by
  have := (h.readTo_go target rfl).2
  rwa [Nat.min_eq_left htarget] at this

theorem Sound.readPast {s : List Char} {cache : LineCache} (h : Sound s cache) (number : Nat) :
    Sound s (cache.readPast number) ∧
      (number < (cache.readPast number).starts.length ∨ (cache.readPast number).unread = []) := by
  fun_induction LineCache.readPast number cache with
  | case1 cache hmore ih => exact ih (h.readTo _)
  | case2 cache hdone =>
    refine ⟨h, ?_⟩
    by_cases hunread : cache.unread = []
    · exact .inr hunread
    · exact .inl (Nat.lt_of_not_le fun hle => hdone ⟨hle, hunread⟩)

theorem Sound.starts_eq_append {s : List Char} {cache : LineCache} (h : Sound s cache)
    {offset : Nat} (hoffset : offset ≤ cache.scanned) :
    cache.starts =
      startsUpTo s offset ++ cache.starts.filter fun start => decide (offset < start) := by
  have hsorted : cache.starts.Pairwise (· < ·) := by
    have := pairwise_lineStarts s
    rw [← h.starts] at this
    exact (List.pairwise_append.mp this).1
  have hunread : (byteEnds cache.scanned cache.unread).filter
      (fun start => decide (start ≤ offset)) = [] := by
    apply List.filter_eq_nil_iff.mpr
    intro e he
    have := lt_of_mem_byteEnds he
    simp only [decide_eq_true_eq]
    omega
  rw [startsUpTo, ← h.starts, List.filter_append, hunread, List.append_nil,
    filter_le_append_filter_lt hsorted]

theorem Sound.partitionPoint_starts {s : List Char} {cache : LineCache} (h : Sound s cache)
    {offset : Nat} (hoffset : offset ≤ cache.scanned) :
    partitionPoint (fun start => decide (start ≤ offset)) cache.starts =
      (startsUpTo s offset).length := by
  rw [h.starts_eq_append hoffset]
  apply partitionPoint_append
  · intro start hstart
    exact (List.mem_filter.mp hstart).2
  · intro start hstart
    have := of_decide_eq_true (List.mem_filter.mp hstart).2
    exact decide_eq_false (Nat.not_le.mpr this)

theorem Sound.lineOf {s : List Char} {cache : LineCache} (h : Sound s cache) (offset : Nat) :
    (cache.lineOf offset).1 = Recount.lineOf s offset ∧ Sound s (cache.lineOf offset).2 := by
  have hmin : min offset (width s) ≤ (cache.readTo (min offset (width s))).scanned :=
    h.le_scanned_readTo (Nat.min_le_right _ _)
  simp only [LineCache.lineOf, h.source]
  rw [Recount.lineOf_eq_length_startsUpTo]
  exact ⟨(h.readTo _).partitionPoint_starts hmin, h.readTo _⟩

theorem Sound.lineRange {s : List Char} {cache : LineCache} (h : Sound s cache) (span : Span) :
    (cache.lineRange span).1 = Recount.lineRange s span ∧ Sound s (cache.lineRange span).2 := by
  obtain ⟨hfirst, hcache⟩ := h.lineOf span.start
  simp only [LineCache.lineRange, Recount.lineRange, hfirst]
  split
  · obtain ⟨hlast, hcache⟩ := hcache.lineOf (span.stop - 1)
    exact ⟨congrArg (_, ·) hlast, hcache⟩
  · obtain ⟨hlast, hcache⟩ := hcache.lineOf span.start
    exact ⟨congrArg (_, ·) hlast, hcache⟩

theorem Sound.getElem?_starts {s : List Char} {cache : LineCache} (h : Sound s cache)
    {offset : Nat} (hoffset : offset ≤ cache.scanned) :
    cache.starts[(startsUpTo s offset).length - 1]? = some (Recount.lineStart s offset) := by
  have hpos : 0 < (startsUpTo s offset).length := by
    rw [startsUpTo_eq_cons]
    exact Nat.succ_pos _
  rw [h.starts_eq_append hoffset, List.getElem?_append_left (by omega),
    ← List.getLast?_eq_getElem?, Recount.getLast?_startsUpTo]

theorem Sound.le_scanned_lineOf {s : List Char} {cache : LineCache} (h : Sound s cache)
    {offset : Nat} (hoffset : offset ≤ width s) : offset ≤ (cache.lineOf offset).2.scanned := by
  rw [LineCache.lineOf, h.source, Nat.min_eq_left hoffset]
  exact h.le_scanned_readTo hoffset

theorem Sound.position? {s : List Char} {cache : LineCache} (h : Sound s cache) (offset : Nat) :
    ∃ cache', cache.position? offset = some (Recount.position s offset, cache') ∧
      Sound s cache' := by
  simp only [LineCache.position?, Recount.position, h.source,
    Recount.floorBoundary_eq_width_passed]
  have hle := Recount.width_passed_le s (min offset (width s))
  have hstart : Recount.lineStart s (width (Recount.passed s (min offset (width s)))) ≤
      min offset (width s) := Nat.le_trans (Recount.lineStart_le s _) hle
  obtain ⟨middle, hslice, hlength⟩ :=
    Recount.slice?_passed (Recount.isBoundary_lineStart s _) hstart
  generalize hboundary : width (Recount.passed s (min offset (width s))) = boundary at *
  have hwidth : boundary ≤ width s := Nat.le_trans hle (Nat.min_le_right _ _)
  obtain ⟨hnumber, hsound⟩ := h.lineOf boundary
  have hfound := hsound.getElem?_starts (h.le_scanned_lineOf hwidth)
  rw [Recount.lineOf_eq_length_startsUpTo, Nat.min_eq_left hwidth] at hnumber ⊢
  obtain ⟨index, hindex⟩ : ∃ index, (startsUpTo s boundary).length = index + 1 := by
    rw [startsUpTo_eq_cons]
    exact ⟨_, rfl⟩
  rw [hindex] at hnumber hfound ⊢
  rw [hnumber]
  refine ⟨(cache.lineOf boundary).2, ?_, hsound⟩
  have hsource := hsound.source
  simp only [Nat.add_sub_cancel] at hfound
  simp [hfound, hsource, hslice, hlength, Nat.add_comm]

theorem Sound.getElem?_starts_of_readPast {s : List Char} {cache : LineCache} (h : Sound s cache)
    {number : Nat} (hdone : number < cache.starts.length ∨ cache.unread = []) {index : Nat}
    (hindex : index ≤ number) : cache.starts[index]? = (Line.split s)[index]?.map Line.start := by
  rw [← List.getElem?_map, Line.map_start_split, ← h.starts]
  rcases hdone with hlength | hunread
  · rw [List.getElem?_append_left (by omega)]
  · rw [hunread, byteEnds, List.append_nil]

theorem dropBreak_contents {line : Line} (h : ∀ c ∈ line.text, isLineEnd c = false) :
    dropBreak line.contents = line.text := by
  have hhead {c : Char} {rest : List Char} (hrev : line.text.reverse = c :: rest) :
      isLineEnd c = false := by
    apply h
    rw [← List.mem_reverse, hrev]
    exact List.mem_cons_self
  rw [dropBreak, Line.contents, List.reverse_append]
  cases line.ending with
  | none =>
    simp only [LineBreak.chars, List.reverse_nil, List.nil_append]
    split
    · rename_i hrev
      cases hhead hrev
    · rename_i hrev
      cases hhead hrev
    · rename_i hrev
      cases hhead hrev
    · exact List.append_nil _
  | lf =>
    simp only [LineBreak.chars, List.reverse_singleton, List.singleton_append]
    split
    · rename_i hrev
      cases hhead (List.cons.inj hrev).2
    · rename_i hrev
      rw [← (List.cons.inj hrev).2, List.reverse_reverse]
    · rename_i hrev
      cases (List.cons.inj hrev).1
    · rename_i hlf _
      exact absurd rfl (hlf _)
  | cr => exact List.reverse_reverse line.text
  | crlf => exact List.reverse_reverse line.text

theorem Sound.text? {s : List Char} {cache : LineCache} (h : Sound s cache) (number : Nat) :
    ∃ cache', cache.text? number = some (Recount.text? s number, cache') ∧ Sound s cache' := by
  cases number with
  | zero => exact ⟨cache, rfl, h⟩
  | succ index =>
    obtain ⟨hsound, hdone⟩ := h.readPast (index + 1)
    have hstart := hsound.getElem?_starts_of_readPast hdone (Nat.le_succ index)
    have hnext := hsound.getElem?_starts_of_readPast hdone (Nat.le_refl (index + 1))
    have hsource := hsound.source
    rw [LineCache.text?, Recount.text?_succ]
    generalize cache.readPast (index + 1) = cache' at *
    refine ⟨cache', ?_, hsound⟩
    cases hline : (Line.split s)[index]? with
    | none =>
      rw [hline] at hstart
      simp [hstart]
    | some line =>
      have htext := Line.isLineEnd_of_mem_split (List.mem_of_getElem? hline)
      have hslice := Line.slice?_split hline
      rw [hline] at hstart
      rw [← hnext] at hslice
      simp [hstart, hsource, hslice, dropBreak_contents htext]

theorem Sound.ask? {s : List Char} {cache : LineCache} (h : Sound s cache) (query : LineQuery) :
    ∃ cache', cache.ask? query = some (Recount.answer s query, cache') ∧ Sound s cache' := by
  cases query with
  | lineOf offset =>
    obtain ⟨hanswer, hcache⟩ := h.lineOf offset
    refine ⟨_, ?_, hcache⟩
    rw [Recount.answer, ← hanswer]
    rfl
  | lineRange span =>
    obtain ⟨hanswer, hcache⟩ := h.lineRange span
    refine ⟨_, ?_, hcache⟩
    rw [Recount.answer, ← hanswer]
    rfl
  | position offset =>
    obtain ⟨cache', hanswer, hcache⟩ := h.position? offset
    refine ⟨cache', ?_, hcache⟩
    rw [LineCache.ask?, hanswer]
    rfl
  | text number =>
    obtain ⟨cache', hanswer, hcache⟩ := h.text? number
    refine ⟨cache', ?_, hcache⟩
    rw [LineCache.ask?, hanswer]
    rfl

theorem Sound.askAll? {s : List Char} {cache : LineCache} (h : Sound s cache)
    (queries : List LineQuery) : cache.askAll? queries = some (queries.map (Recount.answer s)) := by
  induction queries generalizing cache with
  | nil => rfl
  | cons query queries ih =>
    obtain ⟨cache', hanswer, hcache⟩ := h.ask? query
    simp [LineCache.askAll?, hanswer, ih hcache]

/-- Any questions about a text, in any order and one after the other to one cache, get the answers of
a recount for each alone; none indexes past the starts found or cuts the text inside a character. -/
theorem askAll?_ofText (source : List Char) (queries : List LineQuery) :
    (ofText source).askAll? queries = some (queries.map (Recount.answer source)) ∧
      ∀ span, (Recount.lineRange source span).1 ≤ (Recount.lineRange source span).2 :=
  ⟨(sound_ofText source).askAll? queries, Recount.lineRange_fst_le_snd source⟩

end RequestBook.LineCache
