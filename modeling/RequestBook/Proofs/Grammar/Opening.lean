import RequestBook.Grammar.Reading
import RequestBook.Proofs.Result
import RequestBook.Proofs.Text.Run

namespace RequestBook

open RequestBook.Text

theorem Method.mem_name {m : Method} {c : Char} (h : c ∈ m.name.toList) :
    c.isAlphanum = true ∧ isNameChar c = true := by
  have hall : ∀ d ∈ m.name.toList, d.isAlphanum = true ∧ isNameChar d = true :=
    forall_mem_of_all (by cases m <;> decide)
  exact hall c h

theorem Method.exists_name (m : Method) : ∃ c rest, m.name.toList = c :: rest ∧ c.isUpper = true := by
  cases m <;> exact ⟨_, _, rfl, rfl⟩

theorem Text.isAlphanum_of_isInline {c : Char} (h : isInline c = true) : c.isAlphanum = false := by
  simp only [isInline, Bool.or_eq_true, beq_iff_eq] at h
  rcases h with rfl | rfl <;> decide

theorem Text.isNameChar_of_isInline {c : Char} (h : isInline c = true) : isNameChar c = false := by
  simp only [isInline, Bool.or_eq_true, beq_iff_eq] at h
  rcases h with rfl | rfl <;> decide

theorem Line.not_passed {line : Line} {c : Char} (h : (skipInline line.text).head? = some c)
    (hblank : Text.isBlank c = false) (hcomment : c ≠ '#') :
    (line.isBlank || line.isComment) = false := by
  obtain ⟨rest, hrest⟩ := List.head?_eq_some_iff.mp h
  have hmem : c ∈ line.text := (List.dropWhile_sublist _).subset (hrest ▸ List.mem_cons_self)
  have hblank : line.isBlank = false := List.all_eq_false.mpr ⟨c, hmem, by simp [hblank]⟩
  rw [hblank, Line.isComment, h]
  simpa using hcomment

def Starts (s : List Char) : Prop :=
  ∃ c, s.head? = some c ∧ isBlank c = false ∧ c ≠ '#'

theorem Starts.append {s : List Char} (h : Starts s) (t : List Char) : Starts (s ++ t) := by
  obtain ⟨c, hc, hstart⟩ := h
  obtain ⟨rest, rfl⟩ := List.head?_eq_some_iff.mp hc
  exact ⟨c, rfl, hstart⟩

theorem Starts.of_append {s t : List Char} (h : Starts (s ++ t)) (hs : s ≠ []) : Starts s := by
  obtain ⟨c, s, rfl⟩ := List.exists_cons_of_ne_nil hs
  exact h

theorem Starts.ne_nil {s : List Char} (h : Starts s) : s ≠ [] := by
  rintro rfl
  obtain ⟨c, hc, -⟩ := h
  cases hc

theorem Starts.skipInline {s : List Char} (h : Starts s) : skipInline s = s := by
  obtain ⟨c, hc, hblank, -⟩ := h
  refine skipInline_of_stops fun d hd => ?_
  rw [hc] at hd
  cases hd
  exact isInline_of_not_blank hblank

theorem Starts.not_passed {line : Line} (h : Starts (Text.skipInline line.text)) :
    (line.isBlank || line.isComment) = false := by
  obtain ⟨c, hc, hblank, hcomment⟩ := h
  exact Line.not_passed hc hblank hcomment

theorem Starts.isIndented {line : Line} (h : Starts line.text) : line.isIndented = false := by
  obtain ⟨c, hc, hblank, -⟩ := h
  rw [Line.isIndented, hc]
  exact isInline_of_not_blank hblank

theorem Starts.trimmed {s : List Char} (h : Starts s) (hends : Ends s) : Trimmed s where
  start := by
    obtain ⟨c, hc, hblank, -⟩ := h
    intro d hd
    rw [hc] at hd
    cases hd
    exact hblank
  stop := hends.stops_reverse

theorem starts_of_isNameChar {s : List Char} {c : Char} (h : s.head? = some c)
    (hc : isNameChar c = true) : Starts s := by
  refine ⟨c, h, isBlank_of_isNameChar hc, ?_⟩
  rintro rfl
  cases hc

namespace Grammar

theorem headerName?_eq_some_iff {s name rest : List Char} :
    headerName? s = some (name, rest) ↔
      s = name ++ ':' :: rest ∧ name ≠ [] ∧ ∀ c ∈ name, isNameChar c = true := by
  constructor
  · intro h
    unfold headerName? at h
    split at h
    · cases h
    · rename_i hdrop hne
      cases h
      refine ⟨?_, hne, fun _ => List.mem_takeWhile_imp⟩
      rw [← hdrop, List.takeWhile_append_dropWhile]
    · cases h
  · rintro ⟨rfl, hne, hname⟩
    have hstops : Stops isNameChar (':' :: rest) := stops_cons.mpr (by decide)
    rw [headerName?, takeWhile_append_of_stops hname hstops, dropWhile_append_of_stops hname hstops]
    cases name with
    | nil => exact absurd rfl hne
    | cons c name => rfl

theorem head?_of_readHeader? {line : Line} {s : List Char} {d : Definition}
    (h : readHeader? line s = some d) : ∃ c, s.head? = some c ∧ isNameChar c = true := by
  obtain ⟨⟨name, rest⟩, hname, -⟩ := Option.map_eq_some_iff.mp h
  obtain ⟨rfl, hne, hchars⟩ := headerName?_eq_some_iff.mp hname
  cases name with
  | nil => exact absurd rfl hne
  | cons c name => exact ⟨c, rfl, hchars c List.mem_cons_self⟩

theorem headerName?_eq_none {name rest : List Char} {c : Char}
    (hname : ∀ d ∈ name, isNameChar d = true) (hc : isNameChar c = false) (hcolon : c ≠ ':') :
    headerName? (name ++ c :: rest) = none := by
  have hstops : Stops isNameChar (c :: rest) := stops_cons.mpr hc
  rw [headerName?, takeWhile_append_of_stops hname hstops, dropWhile_append_of_stops hname hstops]
  cases name with
  | nil => rfl
  | cons d name =>
    split
    · rfl
    · rename_i heq _
      cases heq
      exact absurd rfl hcolon
    · rfl

theorem exists_of_opensProcessor {s : List Char} (h : opensProcessor s = true) :
    ∃ c rest, s = processorKeyword ++ c :: rest ∧ isInline c = true := by
  rw [opensProcessor, Bool.and_eq_true] at h
  obtain ⟨rest, rfl⟩ := List.isPrefixOf_iff_prefix.mp h.1
  rw [List.drop_left] at h
  obtain ⟨c, hc, hinline⟩ := (Option.any_eq_true _ _).mp h.2
  obtain ⟨more, rfl⟩ := List.head?_eq_some_iff.mp hc
  exact ⟨c, more, rfl, hinline⟩

theorem exists_of_readRequest {line : Line} {s : List Char} {r : Request}
    (h : readRequest line s = .ok r) : ∃ c after afterPath left,
      s = r.method.name.toList ++ c :: after ∧ isInline c = true ∧
        readPath (skipInline (c :: after)) = .ok (r.path, afterPath) ∧
        readBinding afterPath = .ok (r.processor, left) ∧ endLine left = .ok () ∧
        r.body = none ∧ r.headers = [] ∧ r.span = ⟨line.offsetOf s, line.offsetOf left⟩ := by
  rw [readRequest] at h
  dsimp only at h
  split at h
  · cases h
  · rename_i method hmethod
    split at h
    · rename_i hinline
      obtain ⟨⟨path, afterPath⟩, hpath, h⟩ := bind_eq_ok_iff.mp h
      obtain ⟨⟨processor, left⟩, hbinding, h⟩ := bind_eq_ok_iff.mp h
      obtain ⟨_, hend, h⟩ := bind_eq_ok_iff.mp h
      cases h
      obtain ⟨c, hc, hinline⟩ := (Option.any_eq_true _ _).mp hinline
      obtain ⟨after, hafter⟩ := List.head?_eq_some_iff.mp hc
      have hname : method.name.toList = s.takeWhile Char.isAlphanum := by
        rw [Method.name_of_ofName? hmethod, String.toList_ofList]
      refine ⟨c, after, afterPath, left, ?_, hinline, ?_, hbinding, hend, rfl, rfl, rfl⟩
      · rw [hname, ← hafter, List.takeWhile_append_dropWhile]
      · rwa [← hafter]
    · cases h

theorem readRequest_eq (line : Line) {method : Method} {c : Char} (hc : isInline c = true)
    (after : List Char) : readRequest line (method.name.toList ++ c :: after) = (do
      let (path, rest) ← readPath (skipInline (c :: after))
      let (processor, rest) ← readBinding rest
      endLine rest
      .ok ⟨method, path, none, processor, [],
        ⟨line.offsetOf (method.name.toList ++ c :: after), line.offsetOf rest⟩⟩) := by
  have hname : ∀ d ∈ method.name.toList, d.isAlphanum = true := fun d hd => (Method.mem_name hd).1
  have hstops : Stops Char.isAlphanum (c :: after) := stops_cons.mpr (isAlphanum_of_isInline hc)
  rw [readRequest, takeWhile_append_of_stops hname hstops, dropWhile_append_of_stops hname hstops,
    String.ofList_toList, Method.ofName?_name]
  simp only [List.head?_cons, Option.any_some, hc, if_true]

namespace Reading

variable {reading : Reading} {line : Line}

theorem begin_of_variable (h : (skipInline line.text).head? = some '$') :
    reading.begin line =
      (atLine line (readVariable line (skipInline line.text))).map fun d =>
        reading.push (.definition d) := by
  rw [begin, Line.not_passed h (by decide) (by decide)]
  dsimp only
  rw [h]
  rfl

theorem begin_of_environment (h : (skipInline line.text).head? = some '@') :
    reading.begin line =
      (atLine line (readEnvironment (skipInline line.text))).map fun name =>
        { reading with
          pending := .environment name (line.offsetOf (skipInline line.text)) [] } := by
  rw [begin, Line.not_passed h (by decide) (by decide)]
  dsimp only
  rw [h]
  rfl

theorem begin_of_isNameChar {c : Char} (h : (skipInline line.text).head? = some c)
    (hc : isNameChar c = true) :
    reading.begin line =
      match readHeader? line (skipInline line.text) with
      | some header => .ok (reading.push (.definition header))
      | none =>
        if opensProcessor (skipInline line.text) then do
          let (name, rest) ← atLine line (readProcessor (skipInline line.text))
          reading.continueScript name (line.offsetOf (skipInline line.text)) [] line rest
        else if c.isUpper then
          (atLine line (readRequest line (skipInline line.text))).map fun r =>
            { reading with pending := .request r }
        else atLine line (expected .entry (skipInline line.text)) := by
  have hne {d : Char} (hd : isNameChar d = false) : c ≠ d := by
    rintro rfl
    rw [hc] at hd
    cases hd
  have hdollar : ¬(some c == some '$') = true := by simpa using hne (by decide)
  have hat : ¬(some c == some '@') = true := by simpa using hne (by decide)
  have hpassed : ¬(line.isBlank || line.isComment) = true := by
    simp [Line.not_passed h (isBlank_of_isNameChar hc) (hne (by decide))]
  rw [begin]
  dsimp only
  rw [h]
  exact (if_neg hpassed).trans ((if_neg hdollar).trans ((if_neg hat).trans rfl))

theorem begin_of_header {d : Definition} (h : readHeader? line (skipInline line.text) = some d) :
    reading.begin line = .ok (reading.push (.definition d)) := by
  obtain ⟨c, hhead, hc⟩ := head?_of_readHeader? h
  rw [begin_of_isNameChar hhead hc, h]

theorem begin_of_processor (h : opensProcessor (skipInline line.text) = true) :
    reading.begin line = (do
      let (name, rest) ← atLine line (readProcessor (skipInline line.text))
      reading.continueScript name (line.offsetOf (skipInline line.text)) [] line rest) := by
  obtain ⟨c, rest, hs, hc⟩ := exists_of_opensProcessor h
  have hhead : (skipInline line.text).head? = some 'P' := by rw [hs]; rfl
  have hheader : readHeader? line (skipInline line.text) = none := by
    rw [readHeader?, hs, headerName?_eq_none (forall_mem_of_all rfl) (isNameChar_of_isInline hc)]
    · rfl
    · rintro rfl
      cases hc
  rw [begin_of_isNameChar hhead (by decide), hheader]
  simp only [h, if_true]

theorem readHeader?_of_readRequest {s : List Char} {r : Request} (h : readRequest line s = .ok r) :
    readHeader? line s = none := by
  obtain ⟨c, after, -, -, rfl, hc, -⟩ := exists_of_readRequest h
  have hcolon : c ≠ ':' := by
    rintro rfl
    cases hc
  rw [readHeader?, headerName?_eq_none (fun d hd => (Method.mem_name hd).2)
    (isNameChar_of_isInline hc) hcolon, Option.map_none]

theorem begin_of_request {r : Request} (h : readRequest line (skipInline line.text) = .ok r) :
    reading.begin line = .ok { reading with pending := .request r } := by
  obtain ⟨c, after, -, -, hs, hc, -⟩ := exists_of_readRequest h
  obtain ⟨d, more, hname, hupper⟩ := r.method.exists_name
  have hhead : (skipInline line.text).head? = some d := by rw [hs, hname]; rfl
  have hd : isNameChar d = true := (Method.mem_name (hname ▸ List.mem_cons_self)).2
  have hheader := readHeader?_of_readRequest h
  have hprocessor : opensProcessor (skipInline line.text) = false := by
    rw [hs, opensProcessor, Bool.and_eq_false_iff]
    cases r.method <;> exact .inl rfl
  rw [begin_of_isNameChar hhead hd, hheader]
  simp only [hprocessor, hupper, h]
  rfl

end Reading

end Grammar

end RequestBook
