import RequestBook.Proofs.Grammar.Cut
import RequestBook.Proofs.Grammar.Sequel
import RequestBook.Proofs.Text.Parts

namespace RequestBook

open RequestBook.Text

namespace Grammar

variable {line : Line}

theorem ends_fence : Ends fence :=
  ends_of_forall (by decide) (forall_mem_of_all rfl)

namespace Reading

/-- The line is the last of an entry: cut where the entry's span stops it still ends the entry, and
only blanks and perhaps a comment are cut off. -/
def EndsOn (reading : Reading) (line : Line) (e : Entry) : Prop :=
  ∃ kept dropped, line.text = kept ++ dropped ∧ Ends kept ∧ Trails dropped ∧
    e.span.stop = line.start + width kept ∧
      ∀ ending total,
        (reading.step (line.cut kept ending) >>= fun r => r.finish total) = .ok [e]

theorem endsOn_definition {d : Definition} (h : DefinedOn line d) :
    empty.EndsOn line (.definition d) := by
  obtain ⟨kept, dropped, htext, hends, htrails, hstop, hcut⟩ := h.exists_cut
  refine ⟨kept, dropped, htext, hends, htrails, hstop, fun ending total => ?_⟩
  exact bind_eq_ok_iff.mpr ⟨_, begin_of_definedOn (hcut ending) empty, rfl⟩

theorem endsOn_environment {d : Definition} (h : DefinedOn line d) (hindented : line.isIndented = true)
    (name : String) (start : Nat) (definitions : List Definition) :
    EndsOn ⟨[], .environment name start definitions⟩ line
      (.environment ⟨name, definitions ++ [d], ⟨start, d.span.stop⟩⟩) := by
  obtain ⟨kept, dropped, htext, hends, htrails, hstop, hcut⟩ := h.exists_cut
  refine ⟨kept, dropped, htext, hends, htrails, hstop, fun ending total => ?_⟩
  rw [← Line.isIndented_cut htext hends.ne_nil ending] at hindented
  refine bind_eq_ok_iff.mpr ⟨_, (Steps.definition rfl hindented (hcut ending)).step_eq, ?_⟩
  have hne : definitions ++ [d] ≠ [] := List.concat_ne_nil d definitions
  have hfinish := finish_environment hne [] name start total
  rw [List.getLast_concat] at hfinish
  exact hfinish

theorem endsOn_request {r : Request} (h : readRequest line (skipInline line.text) = .ok r) :
    empty.EndsOn line (.request r) := by
  obtain ⟨kept, dropped, hs, hspan, hcut⟩ := exists_cut_of_readsRequest h
  obtain ⟨whole, hwhole, -, hends, hreads⟩ := hcut.exists_whole hs
  refine ⟨whole, dropped, hwhole, hends, hcut.trails, ?_, fun ending total => ?_⟩
  · exact (congrArg Span.stop hspan).trans (Line.offsetOf_dropped hwhole)
  · have hread := hreads ending
    rw [← hspan] at hread
    exact bind_eq_ok_iff.mpr ⟨_, begin_of_request hread, rfl⟩

theorem endsOn_header {d : Definition} (h : readHeader? line (skipInline line.text) = some d)
    (r : Request) : EndsOn ⟨[], .request r⟩ line
      (.request { r with headers := r.headers ++ [d], span := ⟨r.span.start, d.span.stop⟩ }) := by
  obtain ⟨kept, dropped, hs, hspan, hcut⟩ :=
    exists_cut_of_readsHeader h (width_skipInline_le line.text)
  obtain ⟨whole, hwhole, -, hends, hreads⟩ := hcut.exists_whole hs
  refine ⟨whole, dropped, hwhole, hends, hcut.trails, ?_, fun ending total => ?_⟩
  · exact (congrArg Span.stop hspan).trans (Line.offsetOf_dropped hwhole)
  · have hread := hreads ending
    rw [← hspan] at hread
    exact bind_eq_ok_iff.mpr ⟨_, (Steps.header rfl hread).step_eq, rfl⟩

theorem joinBody_append_blanks {dropped : List Char} (h : ∀ c ∈ dropped, isBlank c = true)
    (lines : List (List Char)) (kept : List Char) :
    joinBody (lines ++ [kept ++ dropped]) = joinBody (lines ++ [kept]) := by
  obtain ⟨front, hfront⟩ := exists_intercalate_concat '\n' lines
  rw [joinBody, joinBody, hfront, hfront, ← List.append_assoc, trim_append_of_blank h]

theorem exists_trimEnd_of_not_blank (h : line.isBlank = false) : ∃ dropped,
    line.text = trimEnd line.text ++ dropped ∧ (∀ c ∈ dropped, isBlank c = true) ∧
      Ends (trimEnd line.text) := by
  obtain ⟨dropped, htext, hdropped⟩ := trimEnd_append_blanks line.text
  refine ⟨dropped, htext, hdropped, ?_⟩
  refine ends_of_stops_reverse (fun hnil => ?_) (stops_reverse_trimEnd line.text)
  rw [hnil, List.nil_append] at htext
  rw [Line.isBlank, htext, List.all_eq_false] at h
  obtain ⟨c, hc, hblank⟩ := h
  exact hblank (hdropped c hc)

theorem finish_extendBody_cut (r : Request) (lines : List (List Char))
    {kept dropped : List Char} (hkept : kept = trimEnd line.text)
    (hdropped : ∀ c ∈ dropped, isBlank c = true) (htext : line.text = kept ++ dropped)
    (ending : LineBreak) (total : Nat) :
    (extendBody empty r lines (line.cut kept ending)).finish total =
      .ok [.request { r with
        body := some (joinBody (lines ++ [line.text]))
        span := ⟨r.span.start, trimmedStop line⟩ }] := by
  have htrim : trimEnd kept = kept := by
    rw [hkept, trimEnd_of_stops (stops_reverse_trimEnd line.text)]
  have hstop : trimmedStop (line.cut kept ending) = trimmedStop line := by
    simp only [trimmedStop, Line.cut, htrim, ← hkept]
  rw [htext, joinBody_append_blanks hdropped, extendBody, hstop]
  rfl

theorem endsOn_body (h : line.isBlank = false) (r : Request) (lines : List (List Char)) :
    EndsOn ⟨[], .body r lines⟩ line (.request { r with
      body := some (joinBody (lines ++ [line.text]))
      span := ⟨r.span.start, trimmedStop line⟩ }) := by
  obtain ⟨dropped, htext, hdropped, hends⟩ := exists_trimEnd_of_not_blank h
  refine ⟨trimEnd line.text, dropped, htext, hends, trails_of_blank hdropped, rfl, ?_⟩
  intro ending total
  exact bind_eq_ok_iff.mpr ⟨_, (Steps.body rfl (Line.isBlank_cut hends ending)).step_eq,
    finish_extendBody_cut r lines rfl hdropped htext ending total⟩

theorem endsOn_bodyBegins (h : (line.isBlank || line.isComment) = false)
    (hheader : readHeader? line (skipInline line.text) = none) (r : Request) :
    EndsOn ⟨[], .request r⟩ line (.request { r with
      body := some (joinBody [line.text]), span := ⟨r.span.start, trimmedStop line⟩ }) := by
  rw [Bool.or_eq_false_iff] at h
  obtain ⟨dropped, htext, hdropped, hends⟩ := exists_trimEnd_of_not_blank h.1
  refine ⟨trimEnd line.text, dropped, htext, hends, trails_of_blank hdropped, rfl, ?_⟩
  intro ending total
  have hnot : ((line.cut (trimEnd line.text) ending).isBlank ||
      (line.cut (trimEnd line.text) ending).isComment) = false := by
    rw [Line.isBlank_cut hends, Line.isComment_cut hends htext, h.2]
    rfl
  have hheader := readHeader?_cut hends htext hheader ending
  exact bind_eq_ok_iff.mpr ⟨_, (Steps.bodyBegins rfl hnot hheader).step_eq,
    finish_extendBody_cut r [] rfl hdropped htext ending total⟩

theorem endsOn_script {before after : List Char} (hfence : splitFence? line.text = some (before, after))
    (hend : endLine after = .ok ()) (name : String) (start : Nat) (script : List Char) :
    EndsOn ⟨[], .processor name start script⟩ line (.processor
      ⟨name, String.ofList (trim (script ++ before)), ⟨start, line.offsetOf after⟩⟩) := by
  obtain ⟨htext, hkept⟩ := splitFence?_cut hfence
  refine ⟨before ++ fence, after, htext, ends_fence.append before,
    trails_of_endLine hend, Line.offsetOf_dropped htext, fun ending total => ?_⟩
  have hgoes : GoesOn ⟨[], .processor name start script⟩ name start script
      (line.cut (before ++ fence) ending) (before ++ fence) _ := .ended hkept rfl
  rw [Line.offsetOf_cut htext ending (Nat.zero_le _), List.nil_append] at hgoes
  exact bind_eq_ok_iff.mpr ⟨_, continueScript_eq_ok_iff.mpr hgoes, rfl⟩

theorem endsOn_processor {name : String} {rest before after : List Char}
    (hopens : opensProcessor (skipInline line.text) = true)
    (hname : readProcessor (skipInline line.text) = .ok (name, rest))
    (hfence : splitFence? rest = some (before, after)) (hend : endLine after = .ok ()) :
    empty.EndsOn line (.processor ⟨name, String.ofList (trim before),
      ⟨line.offsetOf (skipInline line.text), line.offsetOf after⟩⟩) := by
  obtain ⟨opening, hs, hopening⟩ := exists_opening_of_readProcessor hopens hname
  obtain ⟨hrest, hkept⟩ := splitFence?_cut hfence
  have hwhole : skipInline line.text = opening ++ (before ++ fence) ++ after := by
    rw [hs, hrest]
    simp
  obtain ⟨whole, htext, hskip⟩ := skipInline_eq_append hwhole
  obtain ⟨indent, hindent, -⟩ := exists_skipInline whole
  refine ⟨whole, after, htext, ?_, trails_of_endLine hend, Line.offsetOf_dropped htext, ?_⟩
  · rw [hindent, hskip]
    exact ((ends_fence.append before).append opening).append indent
  intro ending total
  have hstart : (line.cut whole ending).offsetOf (skipInline whole) =
      line.offsetOf (skipInline line.text) := by
    rw [Line.offsetOf_cut htext ending (width_skipInline_le whole), hskip, hwhole]
  have hgoes : GoesOn empty name ((line.cut whole ending).offsetOf (skipInline whole)) []
      (line.cut whole ending) (before ++ fence) _ := .ended hkept rfl
  have hopens : Opens empty (line.cut whole ending) _ := .processor
    (hskip ▸ (hopening (before ++ fence)).1) (hskip ▸ (hopening (before ++ fence)).2) hgoes
  refine bind_eq_ok_iff.mpr ⟨_, hopens.begin_eq, ?_⟩
  rw [hstart, Line.offsetOf_cut htext ending (Nat.zero_le _)]
  rfl

end Reading

end Grammar

end RequestBook
