import RequestBook.Proofs.Grammar.Literal
import RequestBook.Proofs.Grammar.Opening

namespace RequestBook

open RequestBook.Text

theorem toList_toString_ofNat (n : Nat) : (toString (n : Int)).toList = Nat.toDigits 10 n :=
  Nat.toList_repr

theorem toList_toString_negSucc (n : Nat) :
    (toString (Int.negSucc n)).toList = '-' :: Nat.toDigits 10 (n + 1) := by
  simp [Int.toString_eq_repr, Int.repr]

section OneLine

theorem oneLine_iff {s : List Char} : OneLine s ↔ ∀ c ∈ s, isLineEnd c = false := by
  simp only [OneLine, isLineEnd, Bool.or_eq_false_iff, beq_eq_false_iff_ne]
  constructor
  · rintro ⟨hlf, hcr⟩ c hc
    exact ⟨fun h => hlf (h ▸ hc), fun h => hcr (h ▸ hc)⟩
  · intro h
    exact ⟨fun hlf => (h _ hlf).1 rfl, fun hcr => (h _ hcr).2 rfl⟩

@[simp] theorem oneLine_append {s t : List Char} : OneLine (s ++ t) ↔ OneLine s ∧ OneLine t := by
  simp only [oneLine_iff, List.mem_append, or_imp, forall_and]

@[simp] theorem oneLine_cons {c : Char} {s : List Char} :
    OneLine (c :: s) ↔ isLineEnd c = false ∧ OneLine s := by
  simp only [oneLine_iff, List.mem_cons, forall_eq_or_imp]

theorem oneLine_of_not_blank {s : List Char} (h : ∀ c ∈ s, isBlank c = false) : OneLine s :=
  oneLine_iff.mpr fun c hc => Bool.eq_false_iff.mpr fun hend =>
    Bool.eq_false_iff.mp (h c hc) (isBlank_of_isLineEnd hend)

theorem IsName.oneLine {name : String} (h : IsName name) : OneLine name.toList :=
  oneLine_of_not_blank fun c hc => isBlank_of_isNameChar (h.2 c hc)

theorem oneLine_escapeQuoted {s : List Char} (h : OneLine s) :
    OneLine (Grammar.escapeQuoted s) := by
  induction s with
  | nil => exact h
  | cons c s ih =>
    obtain ⟨hc, hs⟩ := oneLine_cons.mp h
    rw [Grammar.escapeQuoted]
    split
    · exact oneLine_cons.mpr ⟨by decide, oneLine_cons.mpr ⟨hc, ih hs⟩⟩
    · exact oneLine_cons.mpr ⟨hc, ih hs⟩

theorem oneLine_toString (n : Int) : OneLine (toString n).toList := by
  have hdigits (n : Nat) : OneLine (Nat.toDigits 10 n) := by
    refine oneLine_of_not_blank fun c hc => isBlank_of_isNameChar ?_
    have hdigit : c.isDigit = true := Nat.isDigit_of_mem_toDigits (by decide) (by decide) hc
    simp [isNameChar, Char.isAlphanum, hdigit]
  cases n with
  | ofNat n =>
    rw [show (toString (Int.ofNat n)).toList = Nat.toDigits 10 n from toList_toString_ofNat n]
    exact hdigits n
  | negSucc n =>
    rw [toList_toString_negSucc]
    exact oneLine_cons.mpr ⟨by decide, hdigits (n + 1)⟩

theorem Value.Writable.oneLine {v : Value} (h : v.Writable) : OneLine v.written := by
  cases v with
  | text s =>
    rw [Value.written, oneLine_append, oneLine_cons]
    exact ⟨⟨by decide, oneLine_escapeQuoted h⟩, by simp [OneLine]⟩
  | integer n => exact oneLine_toString n

theorem Definition.Writable.oneLine {d : Definition} (h : d.Writable) : OneLine d.written := by
  obtain ⟨kind, name, value, span⟩ := d
  obtain ⟨hname, hvalue⟩ := h
  cases kind
  · obtain ⟨s, rfl, hs⟩ := hvalue
    simp only [Definition.written, oneLine_append]
    exact ⟨⟨hname.oneLine, by simp [OneLine]⟩, hs.oneLine⟩
  · simp only [Definition.written, List.cons_append, oneLine_cons, oneLine_append]
    exact ⟨by decide, ⟨hname.oneLine, by simp [OneLine]⟩, Value.Writable.oneLine hvalue⟩

theorem Request.Writable.oneLine {r : Request} (h : r.Writable) : OneLine r.opening := by
  have hmethod : OneLine r.method.name.toList :=
    oneLine_of_not_blank fun c hc => isBlank_of_isNameChar (Method.mem_name hc).2
  have hbinding : OneLine r.binding := by
    rw [Request.binding]
    split
    · simp [OneLine]
    · exact oneLine_append.mpr ⟨by simp [OneLine], (h.processor _ (by assumption)).oneLine⟩
  simp only [Request.opening, oneLine_append, oneLine_cons]
  exact ⟨⟨hmethod, by decide, oneLine_of_not_blank h.path⟩, hbinding⟩

theorem Request.Writable.oneLine_bodyLines {r : Request} (h : r.Writable) :
    ∀ line ∈ r.bodyLines, OneLine line := by
  intro line hline
  rw [Request.bodyLines] at hline
  split at hline
  · cases hline
  · rename_i body hbody
    exact ⟨fun hlf => (mem_of_mem_splitOn hline hlf).2 rfl,
      fun hcr => (h.body body hbody).no_return (mem_of_mem_splitOn hline hcr).1⟩

theorem Processor.Writable.oneLine {p : Processor} (h : p.Writable) : OneLine p.opening := by
  have hkeyword : OneLine Grammar.processorKeyword := by decide
  have hfence : OneLine Grammar.fence := by decide
  simp only [Processor.opening, oneLine_append, oneLine_cons]
  exact ⟨⟨hkeyword, by decide, h.name.oneLine⟩, by decide, hfence⟩

end OneLine

namespace Grammar

theorem isDigit_of_mem_toDigits {n : Nat} {c : Char} (h : c ∈ Nat.toDigits 10 n) :
    c.isDigit = true :=
  Nat.isDigit_of_mem_toDigits (by decide) (by decide) h

theorem digitsValue_toDigits (n : Nat) : digitsValue (Nat.toDigits 10 n) = n :=
  Nat.ofDigitChars_ten_toDigits

theorem readInteger_toString {n : Int} (h : inRange n = true) :
    readInteger (toString n).toList = .ok (n, []) := by
  have hread (negative : Bool) (m : Nat) (hm : (toString n).toList =
      signed negative (Nat.toDigits 10 m)) (hn : n = if negative then -(m : Int) else m) :
      readInteger (toString n).toList = .ok (n, []) := by
    have hvalue : integerOf negative (Nat.toDigits 10 m) = n := by
      rw [integerOf, digitsValue_toDigits, hn]
    rw [← hvalue] at h
    rw [hm, ← hvalue]
    simpa using readInteger_signed Nat.toDigits_ne_nil (fun _ => isDigit_of_mem_toDigits)
      stops_nil h
  cases n with
  | ofNat n => exact hread false n (toList_toString_ofNat n) rfl
  | negSucc n => exact hread true (n + 1) (toList_toString_negSucc n) rfl

theorem exists_toString (n : Int) :
    ∃ c rest, (toString n).toList = c :: rest ∧ (c == '-' || c.isDigit) = true := by
  cases n with
  | ofNat n =>
    obtain ⟨c, rest, hdigits⟩ := List.exists_cons_of_ne_nil (Nat.toDigits_ne_nil (n := n) (b := 10))
    have hc : c.isDigit = true := isDigit_of_mem_toDigits (hdigits ▸ List.mem_cons_self)
    refine ⟨c, rest, ?_, by simp [hc]⟩
    rw [← hdigits]
    exact toList_toString_ofNat n
  | negSucc n => exact ⟨'-', Nat.toDigits 10 (n + 1), toList_toString_negSucc n, rfl⟩

theorem readValue_written {v : Value} (h : v.Writable) : readValue v.written = .ok (v, []) := by
  cases v with
  | text s =>
    have hquoted := readQuoted_escapeQuoted s.toList []
    rw [Value.written, List.cons_append, readValue, hquoted]
    simp [Except.map]
  | integer n =>
    have hrange : inRange n = true := by
      obtain ⟨hmin, hmax⟩ := h
      simp [inRange]
      omega
    have hread := readInteger_toString hrange
    obtain ⟨c, rest, hs, hc⟩ := exists_toString n
    rw [hs] at hread
    rw [Value.written, hs, readValue]
    · rw [if_pos hc, hread]
      rfl
    · rintro rfl
      cases hc

theorem stops_written (v : Value) : Stops isInline v.written := by
  cases v with
  | text s => exact stops_cons.mpr (by decide)
  | integer n =>
    obtain ⟨c, rest, hs, hc⟩ := exists_toString n
    rw [Value.written, hs]
    refine stops_cons.mpr ?_
    cases hinline : isInline c with
    | false => rfl
    | true =>
      simp only [isInline, Bool.or_eq_true, beq_iff_eq] at hinline
      rcases hinline with rfl | rfl <;> cases hc

theorem readVariable_written {d : Definition} (hkind : d.kind = .variable) (h : d.Writable)
    (line : Line) : ∃ d', readVariable line d.written = .ok d' ∧ d'.bare = d.bare := by
  obtain ⟨kind, name, value, span⟩ := d
  cases hkind
  obtain ⟨hname, hvalue⟩ := h
  have hstops : Stops isNameChar (" = ".toList ++ value.written) := stops_cons.mpr (by decide)
  let written := Definition.written ⟨.variable, name, value, span⟩
  refine ⟨⟨.variable, name, value, ⟨line.offsetOf written, line.offsetOf []⟩⟩, ?_, rfl⟩
  rw [readVariable]
  refine bind_eq_ok_iff.mpr ⟨(name, " = ".toList ++ value.written), ?_, ?_⟩
  · rw [← readName_append .variableName hname hstops, ← List.append_assoc]
    rfl
  refine bind_eq_ok_iff.mpr ⟨' ' :: value.written, rfl, ?_⟩
  refine bind_eq_ok_iff.mpr ⟨(value, []), ?_, rfl⟩
  rw [skipInline_space, skipInline_of_stops (stops_written value)]
  exact readValue_written hvalue

theorem readHeader?_written {d : Definition} (hkind : d.kind = .header) (h : d.Writable)
    (line : Line) : ∃ d', readHeader? line d.written = some d' ∧ d'.bare = d.bare := by
  obtain ⟨kind, name, value, span⟩ := d
  cases hkind
  obtain ⟨hname, s, rfl, hs⟩ := h
  have hheader : headerName? (Definition.written ⟨.header, name, .text s, span⟩) =
      some (name.toList, ' ' :: s.toList) := by
    refine headerName?_eq_some_iff.mpr ⟨?_, ?_, hname.2⟩
    · simp [Definition.written, Definition.text, Value.toText]
    · simpa using hname.1
  have hinline : Stops isInline s.toList := by
    intro c hc
    simpa [isInline] using hs.start c hc
  have hvalue : trimEnd (skipInline (' ' :: s.toList)) = s.toList := by
    rw [skipInline_space, skipInline_of_stops hinline]
    refine trimEnd_of_stops fun c hc => hs.stop c ?_
    rwa [← List.head?_reverse]
  rw [readHeader?, hheader, Option.map_some]
  simp only [hvalue, String.ofList_toList]
  exact ⟨_, rfl, rfl⟩

theorem readEnvironment_written {name : String} (h : IsName name) :
    readEnvironment ('@' :: name.toList ++ [':']) = .ok name := by
  rw [readEnvironment]
  refine bind_eq_ok_iff.mpr ⟨(name, [':']), ?_, rfl⟩
  exact readName_append .environmentName h (stops_cons.mpr (by decide))

theorem readBinding_written {r : Request} (h : ∀ name, r.processor = some name → IsName name) :
    readBinding r.binding = .ok (r.processor, []) := by
  rw [Request.binding]
  split
  · rename_i hprocessor
    rw [hprocessor]
    rfl
  · rename_i name hprocessor
    have hname := h name hprocessor
    have hbar : skipInline (" | ".toList ++ name.toList) = '|' :: ' ' :: name.toList := rfl
    rw [readBinding, hbar, hprocessor]
    simp only [skipInline_space, skipInline_of_stops hname.stops, readName_toList _ hname]
    rfl

theorem isBlank_of_binding {r : Request} {c : Char} (h : r.binding.head? = some c) :
    isBlank c = true := by
  rw [Request.binding] at h
  split at h
  · cases h
  · cases h
    rfl

theorem readRequest_written {r : Request} (h : r.Writable) (line : Line) :
    ∃ span, readRequest line r.opening =
      .ok { r with body := none, headers := [], span := span } := by
  have hopening : r.opening = r.method.name.toList ++ ' ' :: (r.path.toList ++ r.binding) := by
    simp [Request.opening]
  have hinline : Stops isInline (r.path.toList ++ r.binding) := by
    have hne : r.path.toList ≠ [] := by simpa using h.path_nonempty
    obtain ⟨c, rest, hpath⟩ := List.exists_cons_of_ne_nil hne
    rw [hpath]
    exact stops_cons.mpr (isInline_of_not_blank (h.path c (hpath ▸ List.mem_cons_self)))
  refine ⟨⟨line.offsetOf r.opening, line.offsetOf []⟩, ?_⟩
  rw [hopening, readRequest_eq line (by decide), skipInline_space, skipInline_of_stops hinline]
  refine bind_eq_ok_iff.mpr ⟨(r.path, r.binding), ?_, ?_⟩
  · exact readPath_append h.path_nonempty h.path fun c hc => by simp [isBlank_of_binding hc]
  · exact bind_eq_ok_iff.mpr ⟨_, readBinding_written h.processor, rfl⟩

theorem readProcessor_written {p : Processor} (h : IsName p.name) :
    readProcessor p.opening = .ok (p.name, []) := by
  have hopening : p.opening = processorKeyword ++ ' ' :: (p.name.toList ++ ' ' :: fence) := by
    rw [Processor.opening, List.append_assoc, List.cons_append]
  rw [hopening, readProcessor, List.drop_left, skipInline_space, skipInline_of_stops (h.stops_append _)]
  refine bind_eq_ok_iff.mpr ⟨(p.name, ' ' :: fence), ?_, rfl⟩
  exact readName_append .processorName h (stops_cons.mpr (by decide))

end Grammar

end RequestBook
