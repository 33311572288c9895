import RequestBook.Proofs.Grammar.Extent
import RequestBook.Proofs.Grammar.Literal

/-!
Lines that are cut short. What is read on a line does not depend on the blanks before it nor on the
blanks and the comment after it. Main statement: the line that ends a construct still ends it when
it is cut where the construct's span stops.
-/

namespace RequestBook

open RequestBook.Text

namespace Line

def cut (line : Line) (kept : List Char) (ending : LineBreak) : Line :=
  ⟨line.start, kept, ending⟩

def unindented (line : Line) : Line :=
  ⟨line.offsetOf (skipInline line.text), skipInline line.text, line.ending⟩

theorem offsetOf_cut {line : Line} {kept dropped rest : List Char}
    (h : line.text = kept ++ dropped) (ending : LineBreak) (hrest : width rest ≤ width kept) :
    (line.cut kept ending).offsetOf rest = line.offsetOf (rest ++ dropped) := by
  rw [offsetOf, offsetOf, h, width_append, width_append]
  simp only [cut]
  omega

theorem isIndented_cut {line : Line} {kept dropped : List Char} (h : line.text = kept ++ dropped)
    (hkept : kept ≠ []) (ending : LineBreak) : (line.cut kept ending).isIndented = line.isIndented := by
  obtain ⟨c, rest, rfl⟩ := List.exists_cons_of_ne_nil hkept
  rw [isIndented, isIndented, h]
  rfl

theorem isBlank_cut {line : Line} {kept : List Char} (h : Ends kept) (ending : LineBreak) :
    (line.cut kept ending).isBlank = false := by
  obtain ⟨c, hc, hblank⟩ := h
  exact List.all_eq_false.mpr ⟨c, List.mem_of_getLast? hc, by simp [hblank]⟩

theorem isComment_cut {line : Line} {kept dropped : List Char} (hends : Ends kept)
    (htext : line.text = kept ++ dropped) (ending : LineBreak) :
    (line.cut kept ending).isComment = line.isComment := by
  have hskip := skipInline_append_of_ne_nil hends.skipInline_ne_nil dropped
  obtain ⟨c, rest, hkept⟩ := List.exists_cons_of_ne_nil hends.skipInline_ne_nil
  rw [isComment, isComment, htext, hskip, cut, hkept]
  rfl

theorem offsetOf_dropped {line : Line} {kept dropped : List Char}
    (h : line.text = kept ++ dropped) : line.offsetOf dropped = line.start + width kept := by
  rw [offsetOf, h, width_append]
  omega

theorem offsetOf_unindented {line : Line} {rest : List Char}
    (hrest : width rest ≤ width (skipInline line.text)) :
    line.unindented.offsetOf rest = line.offsetOf rest := by
  have hle := width_skipInline_le line.text
  simp only [offsetOf, unindented]
  omega

theorem offsetOf_append_add {line : Line} {part rest : List Char}
    (h : width (part ++ rest) ≤ width line.text) :
    line.offsetOf (part ++ rest) + width part = line.offsetOf rest := by
  rw [width_append] at h
  rw [offsetOf, offsetOf, width_append]
  omega

theorem skipInline_unindented (line : Line) :
    skipInline line.unindented.text = skipInline line.text :=
  skipInline_of_stops (stops_dropWhile isInline line.text)

end Line

namespace Grammar

variable {α : Type} {line : Line} {s : List Char}

/-- A form that is read from the kept part of a text, on any line and also without the rest, which
only moves the span. -/
structure Cut (reads : Line → List Char → α → Prop) (place : Span → α) (kept dropped : List Char) :
    Prop where
  ends : Ends kept
  trails : Trails dropped
  reads : ∀ line more, width (kept ++ more) ≤ width line.text → more = dropped ∨ more = [] →
    reads line (kept ++ more) (place ⟨line.offsetOf (kept ++ more), line.offsetOf more⟩)

theorem readVariable_of_parts {c : Char} {name : String} {value : Value}
    {before between part more : List Char} (hname : IsName name)
    (hbefore : ∀ c ∈ before, isInline c = true) (hbetween : ∀ c ∈ between, isInline c = true)
    (hpart : Stops isInline (part ++ more)) (hvalue : readValue (part ++ more) = .ok (value, more))
    (hend : endLine more = .ok ()) :
    readVariable line (c :: (name.toList ++ (before ++ '=' :: (between ++ (part ++ more))))) =
      .ok ⟨.variable, name, value,
        ⟨line.offsetOf (c :: (name.toList ++ (before ++ '=' :: (between ++ (part ++ more))))),
          line.offsetOf more⟩⟩ := by
  have hstops : Stops isNameChar (before ++ '=' :: (between ++ (part ++ more))) := by
    cases before with
    | nil => exact stops_cons.mpr (by decide)
    | cons d before => exact stops_cons.mpr (isNameChar_of_isInline (hbefore d List.mem_cons_self))
  rw [readVariable, List.drop_succ_cons, List.drop_zero]
  refine bind_eq_ok_iff.mpr ⟨_, readName_append .variableName hname hstops, ?_⟩
  refine bind_eq_ok_iff.mpr ⟨between ++ (part ++ more), ?_, ?_⟩
  · rw [skipInline_append hbefore, skipInline_of_stops (stops_cons.mpr (by decide))]
    rfl
  refine bind_eq_ok_iff.mpr ⟨(value, more), ?_, ?_⟩
  · rw [skipInline_append hbetween, skipInline_of_stops hpart]
    exact hvalue
  · exact bind_eq_ok_iff.mpr ⟨(), hend, rfl⟩

theorem exists_cut_of_readsVariable {d : Definition} (h : ReadsVariable line s d) :
    ∃ kept dropped, s = kept ++ dropped ∧ d.span = ⟨line.offsetOf s, line.offsetOf dropped⟩ ∧
      Cut ReadsVariable (fun span => { d with span := span }) kept dropped := by
  rw [ReadsVariable, readVariable] at h
  obtain ⟨⟨name, afterName⟩, hname, h⟩ := bind_eq_ok_iff.mp h
  obtain ⟨afterSign, hsign, h⟩ := bind_eq_ok_iff.mp h
  obtain ⟨⟨value, left⟩, hvalue, h⟩ := bind_eq_ok_iff.mp h
  obtain ⟨_, hend, h⟩ := bind_eq_ok_iff.mp h
  cases h
  obtain ⟨hs, hisName, -⟩ := readName_eq_ok_iff.mp hname
  have hsign := readChar_eq_ok_iff.mp hsign
  obtain ⟨part, hpart, hends, htakes⟩ := takes_readValue hvalue
  obtain ⟨before, hbefore, hbefore'⟩ := exists_skipInline afterName
  obtain ⟨between, hbetween, hbetween'⟩ := exists_skipInline afterSign
  have hinline : Stops isInline (part ++ left) := hpart ▸ stops_dropWhile isInline afterSign
  rw [hsign] at hbefore
  rw [hpart] at hbetween
  cases s with
  | nil => exact absurd (List.append_eq_nil_iff.mp hs.symm).1 hisName.ne_nil
  | cons c s =>
    refine ⟨c :: name.toList ++ before ++ '=' :: between ++ part, left, ?_, rfl, hends.append _,
      trails_of_endLine hend, ?_⟩
    · rw [List.drop_succ_cons, List.drop_zero] at hs
      rw [hs, hbefore, hbetween]
      simp
    intro line' more _ hmore
    have hmoreEnd : endLine more = .ok () := by
      rcases hmore with rfl | rfl
      · exact hend
      · rfl
    simp only [List.append_assoc, List.cons_append]
    exact readVariable_of_parts hisName hbefore' hbetween'
      (hinline.append_of_ne_nil hends.ne_nil more) (htakes more hmore) hmoreEnd

section Header

variable {name rest before value blanks : List Char}

theorem readHeader?_of_colon (hne : name ≠ []) (hname : ∀ c ∈ name, isNameChar c = true)
    (hrest : ∀ c ∈ rest, isBlank c = true) : readHeader? line (name ++ ':' :: rest) =
      some ⟨.header, String.ofList name, .text "",
        ⟨line.offsetOf (name ++ ':' :: rest), line.offsetOf rest⟩⟩ := by
  have hvalue : trimEnd (skipInline rest) = [] := by
    have hblank : ∀ c ∈ (skipInline rest).reverse, isBlank c = true :=
      fun c hc => hrest c ((List.dropWhile_sublist _).subset (List.mem_reverse.mp hc))
    rw [trimEnd, List.dropWhile_eq_nil_iff.mpr hblank]
    rfl
  rw [readHeader?, headerName?_eq_some_iff.mpr ⟨rfl, hne, hname⟩, Option.map_some]
  simp only [hvalue, List.isEmpty_nil, if_true, String.ofList_nil]

theorem readHeader?_of_value (hne : name ≠ []) (hname : ∀ c ∈ name, isNameChar c = true)
    (hbefore : ∀ c ∈ before, isInline c = true) (hstarts : Stops isInline value)
    (hends : Ends value) (hblanks : ∀ c ∈ blanks, isBlank c = true)
    (hfits : width (name ++ ':' :: (before ++ (value ++ blanks))) ≤ width line.text) :
    readHeader? line (name ++ ':' :: (before ++ (value ++ blanks))) =
      some ⟨.header, String.ofList name, .text (String.ofList value),
        ⟨line.offsetOf (name ++ ':' :: (before ++ (value ++ blanks))), line.offsetOf blanks⟩⟩ := by
  have hskip : skipInline (before ++ (value ++ blanks)) = value ++ blanks := by
    have hvalue : Stops isInline (value ++ []) := (List.append_nil value).symm ▸ hstarts
    rw [skipInline_append hbefore, skipInline_of_stops (hvalue.append_of_ne_nil hends.ne_nil blanks)]
  have hstop : line.offsetOf (value ++ blanks) + width value = line.offsetOf blanks := by
    refine Line.offsetOf_append_add (Nat.le_trans ?_ hfits)
    simp only [width_append, width_cons]
    omega
  rw [readHeader?, headerName?_eq_some_iff.mpr ⟨rfl, hne, hname⟩, Option.map_some]
  simp only [hskip, trimEnd_append_of_blank hblanks, trimEnd_of_stops hends.stops_reverse,
    List.isEmpty_iff, hends.ne_nil, if_false, hstop]

end Header

theorem exists_cut_of_readsHeader {d : Definition} (h : ReadsHeader line s d)
    (hs : width s ≤ width line.text) :
    ∃ kept dropped, s = kept ++ dropped ∧ d.span = ⟨line.offsetOf s, line.offsetOf dropped⟩ ∧
      Cut ReadsHeader (fun span => { d with span := span }) kept dropped := by
  obtain ⟨⟨name, rest⟩, hheader, -⟩ := Option.map_eq_some_iff.mp h
  obtain ⟨rfl, hne, hname⟩ := headerName?_eq_some_iff.mp hheader
  obtain ⟨before, hbefore, hinline⟩ := exists_skipInline rest
  obtain ⟨blanks, htrim, hblanks⟩ := trimEnd_append_blanks (skipInline rest)
  have hlast := stops_reverse_trimEnd (skipInline rest)
  generalize trimEnd (skipInline rest) = value at htrim hlast
  have hmoreBlank {all more : List Char} (hall : ∀ c ∈ all, isBlank c = true)
      (hmore : more = all ∨ more = []) : ∀ c ∈ more, isBlank c = true := by
    rcases hmore with rfl | rfl
    · exact hall
    · exact fun c hc => nomatch hc
  by_cases hvalue : value = []
  · have hrest : ∀ c ∈ rest, isBlank c = true := by
      rw [hbefore, htrim, hvalue]
      simpa [or_imp, forall_and] using
        ⟨fun c hc => isBlank_of_isInline (hinline c hc), hblanks⟩
    rw [ReadsHeader, readHeader?_of_colon hne hname hrest] at h
    cases h
    refine ⟨name ++ [':'], rest, by simp, rfl, ends_concat name (by decide), trails_of_blank hrest, ?_⟩
    intro line' more _ hmore
    rw [List.append_assoc, List.singleton_append]
    exact readHeader?_of_colon hne hname (hmoreBlank hrest hmore)
  · have hends := ends_of_stops_reverse hvalue hlast
    have hstarts : Stops isInline value := by
      have hstops : Stops isInline (value ++ blanks) := htrim ▸ stops_dropWhile isInline rest
      exact hstops.left
    obtain rfl : rest = before ++ (value ++ blanks) := by rw [← htrim, ← hbefore]
    rw [ReadsHeader, readHeader?_of_value hne hname hinline hstarts hends hblanks hs] at h
    cases h
    refine ⟨name ++ ':' :: before ++ value, blanks, by simp, rfl, hends.append _,
      trails_of_blank hblanks, ?_⟩
    intro line' more hfits hmore
    simp only [List.append_assoc, List.cons_append] at hfits ⊢
    exact readHeader?_of_value hne hname hinline hstarts hends (hmoreBlank hblanks hmore) hfits

theorem exists_cut_of_readsRequest {r : Request} (h : ReadsRequest line s r) :
    ∃ kept dropped, s = kept ++ dropped ∧ r.span = ⟨line.offsetOf s, line.offsetOf dropped⟩ ∧
      Cut ReadsRequest (fun span => { r with span := span }) kept dropped := by
  obtain ⟨c, after, afterPath, left, hs, hc, hpath, hbinding, hend, hbody, hheaders, hspan⟩ :=
    exists_of_readRequest h
  obtain ⟨hskip, hne, hchars, hstops⟩ := readPath_eq_ok_iff.mp hpath
  obtain ⟨part, rfl, hpart, htakes⟩ := takes_readBinding hbinding
  obtain ⟨before, hbefore, hinline⟩ := exists_skipInline after
  have hskip' (more : List Char) : skipInline (c :: more) = skipInline more :=
    List.dropWhile_cons_of_pos hc
  rw [hskip'] at hskip
  have hpathEnds : Ends r.path.toList := ends_of_forall (by simpa using hne) hchars
  have hpathStops : Stops isInline (r.path.toList ++ (part ++ left)) :=
    hskip ▸ stops_dropWhile isInline after
  let kept := r.method.name.toList ++ c :: before ++ r.path.toList ++ part
  have hkept (more : List Char) : kept ++ more =
      r.method.name.toList ++ c :: (before ++ (r.path.toList ++ (part ++ more))) := by
    simp [kept]
  refine ⟨kept, left, ?_, hspan, ?_, trails_of_endLine hend, ?_⟩
  · rw [hkept, ← hskip, ← hbefore, hs]
  · rcases hpart with rfl | hpart
    · simpa [kept] using hpathEnds.append (r.method.name.toList ++ c :: before)
    · exact hpart.append _
  intro line' more _ hmore
  have hmoreEnd : endLine more = .ok () := by
    rcases hmore with rfl | rfl
    · exact hend
    · rfl
  have hmoreStops : Stops (fun c => !isBlank c) (part ++ more) := by
    rcases hmore with rfl | rfl
    · exact hstops
    · simpa using hstops.left
  rw [ReadsRequest, hkept, readRequest_eq line' hc, hskip', skipInline_append hinline,
    skipInline_of_stops (hpathStops.append_of_ne_nil hpathEnds.ne_nil _)]
  refine bind_eq_ok_iff.mpr ⟨(r.path, part ++ more), readPath_append hne hchars hmoreStops, ?_⟩
  refine bind_eq_ok_iff.mpr ⟨(r.processor, more), htakes more hmore, ?_⟩
  refine bind_eq_ok_iff.mpr ⟨(), hmoreEnd, ?_⟩
  rw [hbody, hheaders]

section

variable {reads : Line → List Char → α → Prop} {place : Span → α} {kept dropped : List Char}

theorem Cut.exists_whole (h : Cut reads place kept dropped)
    (hs : skipInline line.text = kept ++ dropped) :
    ∃ whole, line.text = whole ++ dropped ∧ skipInline whole = kept ∧ Ends whole ∧ ∀ ending,
      reads (line.cut whole ending) (skipInline whole)
        (place ⟨line.offsetOf (skipInline line.text), line.offsetOf dropped⟩) := by
  obtain ⟨whole, hwhole, hskip⟩ := skipInline_eq_append hs
  obtain ⟨indent, hindent, -⟩ := exists_skipInline whole
  have hwidth : width kept ≤ width whole := hskip ▸ width_skipInline_le whole
  refine ⟨whole, hwhole, hskip, ?_, fun ending => ?_⟩
  · rw [hindent, hskip]
    exact h.ends.append indent
  · have hfits : width (kept ++ []) ≤ width (line.cut whole ending).text := by
      rwa [List.append_nil]
    have hread := h.reads (line.cut whole ending) [] hfits (.inr rfl)
    rwa [List.append_nil, Line.offsetOf_cut hwhole ending hwidth,
      Line.offsetOf_cut hwhole ending (Nat.zero_le _), List.nil_append, ← hs, ← hskip] at hread

theorem Cut.unindented (h : Cut reads place kept dropped)
    (hs : skipInline line.text = kept ++ dropped) :
    reads line.unindented (skipInline line.text)
      (place ⟨line.offsetOf (skipInline line.text), line.offsetOf dropped⟩) := by
  have hdropped : width dropped ≤ width (skipInline line.text) := by
    rw [hs, width_append]
    exact Nat.le_add_left _ _
  have hread := h.reads line.unindented dropped (by rw [← hs]; exact Nat.le_refl _) (.inl rfl)
  rwa [← hs, Line.offsetOf_unindented (Nat.le_refl _), Line.offsetOf_unindented hdropped] at hread

end

namespace DefinedOn

variable {d : Definition}

theorem unindented (h : DefinedOn line d) : DefinedOn line.unindented d := by
  cases h with
  | dollar hhead hread =>
    obtain ⟨kept, dropped, hs, hspan, hcut⟩ := exists_cut_of_readsVariable hread
    have hread := hcut.unindented hs
    rw [← hspan] at hread
    exact .dollar (line.skipInline_unindented ▸ hhead) (line.skipInline_unindented.symm ▸ hread)
  | header hread =>
    obtain ⟨kept, dropped, hs, hspan, hcut⟩ :=
      exists_cut_of_readsHeader hread (width_skipInline_le line.text)
    have hread := hcut.unindented hs
    rw [← hspan] at hread
    exact .header (line.skipInline_unindented.symm ▸ hread)

theorem exists_cut (h : DefinedOn line d) : ∃ kept dropped, line.text = kept ++ dropped ∧
    Ends kept ∧ Trails dropped ∧ d.span.stop = line.start + width kept ∧
      ∀ ending, DefinedOn (line.cut kept ending) d := by
  cases h with
  | dollar hhead hread =>
    obtain ⟨kept, dropped, hs, hspan, hcut⟩ := exists_cut_of_readsVariable hread
    obtain ⟨whole, hwhole, hskip, hends, hreads⟩ := hcut.exists_whole hs
    refine ⟨whole, dropped, hwhole, hends, hcut.trails, ?_, fun ending => .dollar ?_ ?_⟩
    · rw [hspan, Line.offsetOf_dropped hwhole]
    · change (skipInline whole).head? = some '$'
      obtain ⟨c, rest, hkept⟩ := List.exists_cons_of_ne_nil hcut.ends.ne_nil
      rw [hskip, ← hhead, hs, hkept]
      rfl
    · have hread := hreads ending
      rwa [← hspan] at hread
  | header hread =>
    obtain ⟨kept, dropped, hs, hspan, hcut⟩ :=
      exists_cut_of_readsHeader hread (width_skipInline_le line.text)
    obtain ⟨whole, hwhole, hskip, hends, hreads⟩ := hcut.exists_whole hs
    refine ⟨whole, dropped, hwhole, hends, hcut.trails, ?_, fun ending => .header ?_⟩
    · rw [hspan, Line.offsetOf_dropped hwhole]
    · have hread := hreads ending
      rwa [← hspan] at hread

end DefinedOn

theorem exists_opening_of_readProcessor {name : String} {rest : List Char}
    (hopens : opensProcessor s = true) (h : readProcessor s = .ok (name, rest)) :
    ∃ opening, s = opening ++ rest ∧ ∀ more, opensProcessor (opening ++ more) = true ∧
      readProcessor (opening ++ more) = .ok (name, more) := by
  obtain ⟨c, after, rfl, hc⟩ := exists_of_opensProcessor hopens
  rw [readProcessor, List.drop_left] at h
  obtain ⟨⟨name, afterName⟩, hname, h⟩ := bind_eq_ok_iff.mp h
  dsimp only at h
  split at h
  · rename_i hfence
    cases h
    obtain ⟨left, hleft⟩ := List.isPrefixOf_iff_prefix.mp hfence
    obtain ⟨hs, hisName, hstops⟩ := readName_eq_ok_iff.mp hname
    obtain ⟨before, hbefore, hinline⟩ := exists_skipInline after
    obtain ⟨between, hbetween, hinline'⟩ := exists_skipInline afterName
    have hskip (more : List Char) : skipInline (c :: more) = skipInline more :=
      List.dropWhile_cons_of_pos hc
    rw [hskip] at hs
    rw [← hleft] at hbetween
    let opening := processorKeyword ++ c :: before ++ name.toList ++ between ++ fence
    have hopening (more : List Char) : opening ++ more =
        processorKeyword ++ c :: (before ++ (name.toList ++ (between ++ (fence ++ more)))) := by
      simp [opening]
    refine ⟨opening, ?_, fun more => ⟨?_, ?_⟩⟩
    · rw [← hleft, List.drop_left, hopening, ← hbetween, ← hs, ← hbefore]
    · rw [hopening, opensProcessor, List.drop_left, Bool.and_eq_true]
      exact ⟨List.isPrefixOf_iff_prefix.mpr (List.prefix_append _ _), hc⟩
    have hstops' : Stops isNameChar (between ++ (fence ++ more)) := by
      have hsame : Stops isNameChar ((between ++ fence) ++ left) := by
        rwa [List.append_assoc, ← hbetween]
      simpa using hsame.append_of_ne_nil (by simp [fence]) more
    rw [hopening, readProcessor, List.drop_left, hskip, skipInline_append hinline,
      skipInline_of_stops (hisName.stops_append _)]
    refine bind_eq_ok_iff.mpr ⟨_, readName_append .processorName hisName hstops', ?_⟩
    have hskipFence : skipInline (fence ++ more) = fence ++ more := rfl
    dsimp only
    rw [skipInline_append hinline', hskipFence,
      if_pos (List.isPrefixOf_iff_prefix.mpr (List.prefix_append _ _)), List.drop_left]
  · cases h

theorem readHeader?_cut {kept dropped : List Char} (hends : Ends kept)
    (htext : line.text = kept ++ dropped) (h : readHeader? line (skipInline line.text) = none)
    (ending : LineBreak) : readHeader? (line.cut kept ending) (skipInline kept) = none := by
  have hskip := skipInline_append_of_ne_nil hends.skipInline_ne_nil dropped
  rw [← htext] at hskip
  cases hname : headerName? (skipInline kept) with
  | none => rw [readHeader?, hname, Option.map_none]
  | some parts =>
    obtain ⟨hs, hne, hchars⟩ := headerName?_eq_some_iff.mp hname
    have hwhole : headerName? (skipInline line.text) = some (parts.1, parts.2 ++ dropped) :=
      headerName?_eq_some_iff.mpr ⟨by rw [hskip, hs]; simp, hne, hchars⟩
    rw [readHeader?, hwhole] at h
    cases h

namespace Reading

variable {reading reading' : Reading}

theorem GoesOn.unindented {name : String} {start : Nat} {script rest : List Char}
    (h : GoesOn reading name start script line rest reading')
    (hrest : width rest ≤ width (skipInline line.text)) :
    GoesOn reading name start script line.unindented rest reading' := by
  cases h with
  | @ended before after hfence hend =>
    obtain ⟨hs, -⟩ := splitFence?_cut hfence
    have hafter : width after ≤ width (skipInline line.text) := by
      rw [hs, width_append] at hrest
      omega
    rw [← Line.offsetOf_unindented hafter]
    exact .ended hfence hend
  | within hfence => exact .within hfence

theorem Opens.unindented (h : Opens reading line reading') :
    Opens reading line.unindented reading' := by
  have hskip := line.skipInline_unindented
  have hstart := Line.offsetOf_unindented (Nat.le_refl (width (skipInline line.text)))
  cases h with
  | definition hd => exact .definition hd.unindented
  | environment hhead hname =>
    rw [← hstart, ← hskip]
    rw [← hskip] at hhead hname
    exact .environment hhead hname
  | request hr =>
    obtain ⟨kept, dropped, hs, hspan, hcut⟩ := exists_cut_of_readsRequest hr
    have hread := hcut.unindented hs
    rw [← hspan] at hread
    exact .request (hskip.symm ▸ hread)
  | processor hopens hname hscript =>
    obtain ⟨opening, hs, -⟩ := exists_opening_of_readProcessor hopens hname
    have hrest := congrArg width hs
    rw [width_append] at hrest
    have hscript := hscript.unindented (by omega)
    rw [← hstart, ← hskip] at hscript
    rw [← hskip] at hopens hname
    exact .processor hopens hname hscript

end Reading

end Grammar

end RequestBook
