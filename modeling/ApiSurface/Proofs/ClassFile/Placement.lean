import ApiSurface.ClassFile.Decoding
import ApiSurface.Proofs.ClassFile.Tiling

/-!
# Where markers stand

Which offsets are marked is known only when all of the code is decoded: a branch may lead back or
ahead, handlers are listed beside the code, and lines in any number of tables. Markers are then put
in front of the instructions in one more pass, so it is enough to say what stands before each
instruction. The offsets of instructions increase, so no marker is put in front of two of them.

Main definitions: `Payload.LeadsTo`, `StartsLine`, `Marked`. Main statements:
`decodeFrom_increasing`, `marked_withMarkers`, `decodeCode_marks`.
-/
namespace ApiSurface

/-- Execution may go on at the offset after a branch or a jump table. -/
inductive Payload.LeadsTo : Payload → Nat → Prop
  | jump {opcode : Opcode} {target : Nat} : LeadsTo (.jump opcode target) target
  | fallback {opcode : Opcode} {target : Nat} {targets : List Nat} :
      LeadsTo (.switch opcode target targets) target
  | case {opcode : Opcode} {fallback target : Nat} {targets : List Nat}
      (listed : target ∈ targets) : LeadsTo (.switch opcode fallback targets) target

namespace ClassFile

/-! ## What is to be marked -/

/-- The entries of a table of source lines. -/
def Attribute.lineEntries : Attribute → List (Nat × Nat)
  | .lines entries => entries
  | _ => []

/-- Of the entries for the offset in the tables of source lines, taken in their order, the first is
for this line. -/
def StartsLine (attributes : List Attribute) (offset line : Nat) : Prop :=
  ∃ before after, attributes.flatMap Attribute.lineEntries = before ++ (offset, line) :: after ∧
    ∀ entry ∈ before, entry.1 ≠ offset

variable {leads : Nat → Prop} {starts : Nat → Nat → Prop}

/-- The markers of an offset: a label if something leads there, and a line number if a line starts
there. -/
structure MarkersAt (leads : Nat → Prop) (starts : Nat → Nat → Prop) (offset : Nat)
    (labels lines : List Instruction) : Prop where
  label : leads offset → labels = [⟨offset, .label⟩]
  noLabel : ¬ leads offset → labels = []
  line : ∀ n, starts offset n → lines = [⟨offset, .lineNumber n⟩]
  noLine : (∀ n, ¬ starts offset n) → lines = []

/-- Instructions without and with markers: right before each stands its label, then its line number,
and nothing else is added. -/
inductive Marked (leads : Nat → Prop) (starts : Nat → Nat → Prop) :
    (listing body : List Instruction) → Prop
  | nil : Marked leads starts [] []
  | cons {i : Instruction} {labels lines listing body : List Instruction}
      (here : MarkersAt leads starts i.offset labels lines)
      (more : Marked leads starts listing body) :
      Marked leads starts (i :: listing) (labels ++ lines ++ i :: body)

/-! ## The tables of a pass -/

theorem mem_branchTargets {p : Payload} {offset : Nat} :
    offset ∈ branchTargets p ↔ p.LeadsTo offset := by
  constructor
  · intro h
    cases p with
    | jump opcode target =>
      obtain rfl := List.mem_singleton.mp h
      exact .jump
    | switch opcode fallback targets =>
      rcases List.mem_cons.mp h with rfl | h
      · exact .fallback
      · exact .case h
    | _ => cases h
  · rintro (_ | _ | listed)
    · exact List.mem_singleton_self offset
    · exact List.mem_cons_self
    · exact List.mem_cons_of_mem _ listed

theorem sourceLines_eq (attributes : List Attribute) :
    sourceLines attributes = attributes.flatMap Attribute.lineEntries := by
  induction attributes with
  | nil => rfl
  | cons a attributes ih => cases a <;> simp [sourceLines, Attribute.lineEntries, ih]

theorem contains_foldl_insert (targets : List Nat) (labels : Std.ExtTreeMap Nat Unit)
    (offset : Nat) :
    (targets.foldl (fun m t => m.insert t ()) labels).contains offset = true ↔
      labels.contains offset = true ∨ offset ∈ targets := by
  induction targets generalizing labels with
  | nil => simp
  | cons t targets ih =>
    rw [List.foldl_cons, ih, Std.ExtTreeMap.contains_insert, List.mem_cons, Bool.or_eq_true,
      beq_iff_eq, Nat.compare_eq_eq, or_assoc, or_left_comm, @eq_comm _ t offset]

/-- The first entry for an offset stays, unless there was one before. -/
theorem getElem?_foldl_insertIfNew (entries : List (Nat × Nat)) (lines : Std.ExtTreeMap Nat Nat)
    (offset : Nat) :
    (entries.foldl (fun m (offset, line) => m.insertIfNew offset line) lines)[offset]? =
      lines[offset]?.or ((entries.find? (·.1 = offset)).map (·.2)) := by
  induction entries generalizing lines with
  | nil => simp
  | cons e entries ih =>
    obtain ⟨start, line⟩ := e
    rw [List.foldl_cons, ih, Std.ExtTreeMap.getElem?_insertIfNew, List.find?_cons]
    by_cases hstart : start = offset
    · subst hstart
      cases hold : lines[start]? <;> simp [Std.ExtTreeMap.mem_iff_isSome_getElem?, hold]
    · simp [hstart]

/-- A line is found for an offset exactly if it is that of the first entry. -/
theorem find?_lineEntries {attributes : List Attribute} {offset line : Nat} :
    (((attributes.flatMap Attribute.lineEntries).find? (·.1 = offset)).map (·.2)) = some line ↔
      StartsLine attributes offset line := by
  rw [Option.map_eq_some_iff]
  constructor
  · rintro ⟨⟨start, n⟩, hfind, rfl⟩
    obtain ⟨hstart, before, after, hentries, hbefore⟩ := List.find?_eq_some_iff_append.mp hfind
    obtain rfl : start = offset := by simpa using hstart
    exact ⟨before, after, hentries, by simpa using hbefore⟩
  · rintro ⟨before, after, hentries, hbefore⟩
    refine ⟨(offset, line), ?_, rfl⟩
    exact List.find?_eq_some_iff_append.mpr
      ⟨by simp, before, after, hentries, by simpa using hbefore⟩

/-! ## Markers in front of instructions -/

theorem marked_flatMap {labels : Std.ExtTreeMap Nat Unit} {firsts : Std.ExtTreeMap Nat Nat}
    (hlabels : ∀ offset, labels.contains offset = true ↔ leads offset)
    (hfirsts : ∀ offset line, firsts[offset]? = some line ↔ starts offset line)
    (listing : List Instruction) :
    Marked leads starts listing (listing.flatMap (marked labels firsts)) := by
  induction listing with
  | nil => exact .nil
  | cons i listing ih =>
    rw [List.flatMap_cons, marked, List.append_assoc, List.singleton_append]
    refine .cons ?_ ih
    constructor
    · intro h
      rw [if_pos ((hlabels _).mpr h)]
    · intro h
      rw [if_neg fun hlabel => h ((hlabels _).mp hlabel)]
    · intro n h
      rw [(hfirsts _ n).mpr h]
      rfl
    · intro h
      cases hline : firsts[i.offset]? with
      | none => rfl
      | some n => exact absurd ((hfirsts _ n).mp hline) (h n)

/-- **Markers stand where they are to**, whatever the order in which what they mark was found. -/
theorem marked_withMarkers (handlers : List Nat) (attributes : List Attribute)
    (listing : List Instruction) :
    Marked (fun offset => offset ∈ handlers ∨ ∃ i ∈ listing, i.payload.LeadsTo offset)
      (StartsLine attributes) listing (withMarkers handlers (sourceLines attributes) listing) := by
  refine marked_flatMap (fun offset => ?_) (fun offset line => ?_) listing
  · rw [contains_foldl_insert]
    simp [mem_branchTargets]
  · rw [getElem?_foldl_insertIfNew, sourceLines_eq, ← find?_lineEntries]
    simp

/-! ## Offsets -/

/-- Every instruction is decoded behind the one before it, so offsets increase. -/
theorem decodeFrom_increasing {pool : Pool} {bootstraps : List (List Nat)} {count pc : Nat}
    {letters : List UInt8} {listing : List Instruction}
    (h : decodeFrom pool bootstraps count pc letters = .ok listing) :
    (∀ i ∈ listing, pc ≤ i.offset) ∧ listing.Pairwise (·.offset < ·.offset) := by
  induction count generalizing pc letters listing with
  | zero =>
    obtain rfl : listing = [] := by cases letters <;> exact (Except.ok.inj h).symm
    simp
  | succ count ih =>
    cases letters with
    | nil =>
      cases h
      simp
    | cons opcode rest =>
      obtain ⟨⟨payload, length⟩, hone, h⟩ := bind_eq_ok.mp h
      obtain ⟨others, hothers, h⟩ := bind_eq_ok.mp h
      cases h
      obtain ⟨hbehind, hincreasing⟩ := ih hothers
      have hpos := (decodeOne_spans hone).pos
      have hafter : ∀ i ∈ others, pc < i.offset := fun i hi => by
        have := hbehind i hi
        omega
      exact ⟨List.forall_mem_cons.mpr ⟨Nat.le_refl pc, fun i hi => Nat.le_of_lt (hafter i hi)⟩,
        List.pairwise_cons.mpr ⟨hafter, hincreasing⟩⟩

/-- **Markers are placed exactly.** Without its markers a decoded body is what its code decodes to,
at offsets that increase. Right before each instruction stands one label if it is the start of a
handler or the target of a branch or jump table anywhere in the body, then one line number if the
line tables have an entry for its offset, with the line of the first; there are no other markers. -/
theorem decodeCode_marks {pool : Pool} {bootstraps : List (List Nat)} {code : List UInt8}
    {handlers : List Nat} {attributes : List Attribute} {body : List Instruction}
    (h : decodeCode pool bootstraps code handlers (sourceLines attributes) = .ok body) :
    ∃ listing, decodeAll pool bootstraps code = .ok listing ∧
      body.filter (! ·.isMarker) = listing ∧ listing.Pairwise (·.offset < ·.offset) ∧
      Marked (fun offset => offset ∈ handlers ∨ ∃ i ∈ listing, i.payload.LeadsTo offset)
        (StartsLine attributes) listing body := by
  obtain ⟨listing, hlisting, h⟩ := bind_eq_ok.mp h
  cases h
  have hstart : decodeFrom pool bootstraps code.length 0 (code.drop 0) = .ok listing := hlisting
  obtain ⟨hreal, -⟩ := decodeFrom_tiles (by simp) hstart
  exact ⟨listing, hlisting, filter_withMarkers handlers _ hreal, (decodeFrom_increasing hlisting).2,
    marked_withMarkers handlers attributes listing⟩

/-- A loop that is left by a branch ahead and goes on by a branch back. -/
def loopCode : List UInt8 :=
  [Opcode.iconst0, Opcode.ifeq, 0, 8, Opcode.gotoW, 0xff, 0xff, 0xff, 0xfc, Opcode.areturn]

/-- Two tables of source lines, which both have an entry for the branch back. -/
def loopTables : List Attribute := [.lines [(0, 1), (4, 2)], .unused, .lines [(4, 5), (9, 3)]]

/-- What the loop decodes to if a handler starts at the branch back. -/
def loopBody : List Instruction :=
  [⟨0, .label⟩, ⟨0, .lineNumber 1⟩, ⟨0, .op Opcode.iconst0⟩,
    ⟨1, .jump Opcode.ifeq 9⟩,
    ⟨4, .label⟩, ⟨4, .lineNumber 2⟩, ⟨4, .jump Opcode.gotoW 0⟩,
    ⟨9, .label⟩, ⟨9, .lineNumber 3⟩, ⟨9, .op Opcode.areturn⟩]

/-- The markers of the loop are placed exactly. -/
theorem decodeCode_marks_loop :
    decodeCode samplePool [] loopCode [4] (sourceLines loopTables) = .ok loopBody ∧
      ∃ listing, decodeAll samplePool [] loopCode = .ok listing ∧
        loopBody.filter (! ·.isMarker) = listing ∧ listing.Pairwise (·.offset < ·.offset) ∧
        Marked (fun offset => offset ∈ [4] ∨ ∃ i ∈ listing, i.payload.LeadsTo offset)
          (StartsLine loopTables) listing loopBody := by
  have hbody : decodeCode samplePool [] loopCode [4] (sourceLines loopTables) = .ok loopBody :=
    toOption_eq_some.mp (by decide +kernel)
  exact ⟨hbody, decodeCode_marks hbody⟩

end ClassFile

end ApiSurface
