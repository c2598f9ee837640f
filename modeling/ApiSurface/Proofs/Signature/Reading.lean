import ApiSurface.Proofs.Descriptor.Methods
import ApiSurface.Proofs.Signature.Written
import ApiSurface.Signature.Reading

/-!
# Signatures are read as they are written

Each reader takes exactly the letters of what is written and leaves what follows, as long as its
count covers the letters that are left. The proof is an induction over what is written: a type, the
parts of a class name and the arguments of a part are read by functions that call each other, so
there is one statement for each.

Main statements: `readType_spelling`, `readDeclaration_spelling`, `signatures_read`.
-/
namespace ApiSurface.Signature
open Descriptor

variable {letters rest : List Char} {count : Nat}

/-! ## First letters -/

/-- The letters that a type starts with. -/
def typeLetters : List Char := ['B', 'C', 'D', 'F', 'I', 'J', 'S', 'Z', 'L', 'T', '[']

theorem WrittenType.exists_spelling (t : WrittenType) :
    ∃ c letters, t.spelling = c :: letters ∧ c ∈ typeLetters := by
  match t with
  | .base p => exact ⟨p.letter, [], by simp [spelling], by cases p <;> decide⟩
  | .variable name => exact ⟨'T', _, by rw [spelling], by decide⟩
  | .array component => exact ⟨'[', _, by rw [spelling], by decide⟩
  | .object outer nested => exact ⟨'L', _, by rw [spelling], by decide⟩

/-- The first letter of a type has no other meaning in a signature. -/
theorem ne_of_mem_typeLetters {c : Char} (h : c ∈ typeLetters) :
    c ≠ ')' ∧ c ≠ 'V' ∧ c ≠ '<' ∧ c ≠ '>' ∧ c ≠ '*' ∧ c ≠ '+' ∧ c ≠ '-' := by
  have hne {d : Char} (hd : d ∉ typeLetters) : c ≠ d := ne_of_mem_of_not_mem h hd
  refine ⟨hne ?_, hne ?_, hne ?_, hne ?_, hne ?_, hne ?_, hne ?_⟩ <;> simp [typeLetters]

theorem Bound.exists_spelling (b : Bound) :
    ∃ c letters, b.type.spelling = c :: letters ∧ (c = 'L' ∨ c = 'T' ∨ c = '[') := by
  obtain ⟨t, reference⟩ := b
  match t with
  | .base p => exact absurd rfl (reference p)
  | .variable name => exact ⟨'T', _, by rw [WrittenType.spelling], by decide⟩
  | .array component => exact ⟨'[', _, by rw [WrittenType.spelling], by decide⟩
  | .object outer nested => exact ⟨'L', _, by rw [WrittenType.spelling], by decide⟩

/-! ## Names -/

/-- Letters that pass a test are told apart from what follows by a letter that does not. -/
theorem span_append {p : Char → Bool} {name : List Char} (c : Char) (rest : List Char)
    (all : ∀ d ∈ name, p d = true) (stop : p c = false) :
    (name ++ c :: rest).takeWhile p = name ∧ (name ++ c :: rest).dropWhile p = c :: rest := by
  rw [List.takeWhile_append_of_pos all, List.dropWhile_append_of_pos all]
  simp [stop]

theorem NamePart.not_endsSegment (name : NamePart) :
    ∀ c ∈ name.text.toList, (! endsSegment c) = true := by
  intro c hc
  simpa [endsSegment, and_assoc] using name.plain c hc

/-- The name of a variable ends before a semicolon, and before a colon where it is declared. -/
theorem VariableName.not_ends (name : VariableName) {stop : Char} (h : stop = ';' ∨ stop = ':') :
    ∀ c ∈ name.text.toList, decide (c ≠ stop) = true := by
  intro c hc
  obtain ⟨hsemicolon, hcolon, -⟩ := name.plain c hc
  rcases h with rfl | rfl
  · simpa using hsemicolon
  · simpa using hcolon

/-! ## Arguments that are kept -/

@[simp] theorem lastGiven_nil {α : Type} (kept : List α) : lastGiven kept [] = kept := rfl

@[simp] theorem lastGiven_nil_cons {α : Type} (kept : List α) (others : List (List α)) :
    lastGiven kept ([] :: others) = lastGiven kept others := rfl

/-- What is given stands for what is kept before it. -/
@[simp] theorem lastGiven_cons_cons {α : Type} (kept : List α) (a : α) (given : List α)
    (others : List (List α)) :
    lastGiven kept ((a :: given) :: others) = lastGiven (a :: given) others := by
  simp [lastGiven, List.getLast?_cons]

section NameParts

variable (name : NamePart) (kept : List TypeArgument)

theorem readClass_end :
    readClass (count + 1) kept (name.text.toList ++ ';' :: rest) =
      .ok ((name.text, kept), rest) := by
  obtain ⟨htake, hdrop⟩ := span_append ';' rest name.not_endsSegment rfl
  unfold readClass
  simp only [htake, hdrop, String.ofList_toList]
  rfl

theorem readClass_dot :
    readClass (count + 1) kept (name.text.toList ++ '.' :: rest) = (do
      let ((inner, arguments), rest) ← readClass count kept rest
      .ok ((name.text ++ "$" ++ inner, arguments), rest)) := by
  obtain ⟨htake, hdrop⟩ := span_append '.' rest name.not_endsSegment rfl
  conv_lhs => unfold readClass
  simp only [htake, hdrop, String.ofList_toList]
  rfl

/-- The arguments of a part are kept in the place of those before it. -/
theorem readClass_open_end {arguments : List TypeArgument}
    (h : readArguments count letters = .ok (arguments, ';' :: rest)) :
    readClass (count + 1) kept (name.text.toList ++ '<' :: letters) =
      .ok ((name.text, arguments), rest) := by
  obtain ⟨htake, hdrop⟩ := span_append '<' letters name.not_endsSegment rfl
  unfold readClass
  simp only [htake, hdrop, String.ofList_toList, h, ok_bind]
  rfl

theorem readClass_open_dot {arguments : List TypeArgument}
    (h : readArguments count letters = .ok (arguments, '.' :: rest)) :
    readClass (count + 1) kept (name.text.toList ++ '<' :: letters) = (do
      let ((inner, arguments), rest) ← readClass count arguments rest
      .ok ((name.text ++ "$" ++ inner, arguments), rest)) := by
  obtain ⟨htake, hdrop⟩ := span_append '<' letters name.not_endsSegment rfl
  conv_lhs => unfold readClass
  simp only [htake, hdrop, String.ofList_toList, h, ok_bind]
  rfl

end NameParts

/-! ## Types -/

/-- An argument that starts like a type is read as a type is. -/
theorem readArguments_exact {c : Char} (h : c ∈ typeLetters) :
    readArguments (count + 1) (c :: letters) = (do
      let (t, rest) ← readType (count + 1) (c :: letters)
      let (arguments, rest) ← readArguments count rest
      .ok (.exact t :: arguments, rest)) := by
  obtain ⟨-, -, -, hclose, hany, hmost, hleast⟩ := ne_of_mem_typeLetters h
  rw [readArguments, if_neg hclose, if_neg hany, if_neg hmost, if_neg hleast, readType]
  cases readHeaded (readType count) (readClass count []) c letters <;> rfl

theorem readHeaded_variable (name : VariableName) (component : Reader GenericType)
    (body : Reader (String × List TypeArgument)) :
    readHeaded component body 'T' (name.text.toList ++ ';' :: rest) =
      .ok (.variable name.text, rest) := by
  obtain ⟨htake, hdrop⟩ := span_append ';' rest (name.not_ends (.inl rfl)) rfl
  simp only [readHeaded, htake, hdrop, String.ofList_toList]
  rfl

theorem readHeaded_base (p : Primitive) (component : Reader GenericType)
    (body : Reader (String × List TypeArgument)) :
    readHeaded component body p.letter rest = .ok (.base p, rest) := by
  cases p <;> rfl

/-- The letters of a part that has arguments, and what follows them. -/
theorem spelling_bracketed (name : NamePart) (argument : WrittenArgument)
    (arguments : List WrittenArgument) (more : List Char) :
    (WrittenPart.mk name (argument :: arguments)).spelling ++ more =
      name.text.toList ++
        '<' :: (argumentsSpelling (argument :: arguments) ++ '>' :: more) := by
  simp [WrittenPart.spelling, argumentsSpelling]

/-- A count that covers a letter is not used up by it. -/
theorem exists_succ_append {c : Char} (h : (letters ++ c :: rest).length ≤ count) :
    ∃ n, count = n + 1 ∧ rest.length ≤ n := by
  rw [List.length_append, List.length_cons] at h
  exact ⟨count - 1, by omega, by omega⟩

theorem exists_succ {c : Char} (h : (c :: rest).length ≤ count) :
    ∃ n, count = n + 1 ∧ rest.length ≤ n :=
  exists_succ_append (show ([] ++ c :: rest).length ≤ count from h)

mutual

/-- **A type is read as it is written**, whatever follows it. -/
theorem readType_spelling (t : WrittenType) (count : Nat) (rest : List Char)
    (short : (t.spelling ++ rest).length ≤ count) :
    readType count (t.spelling ++ rest) = .ok (t.type, rest) := by
  match t with
  | .base p =>
    rw [WrittenType.spelling, List.singleton_append] at short ⊢
    obtain ⟨count, rfl, -⟩ := exists_succ short
    rw [WrittenType.type, readType, readHeaded_base]
  | .variable name =>
    rw [WrittenType.spelling, List.cons_append, List.append_assoc, List.singleton_append]
      at short ⊢
    obtain ⟨count, rfl, -⟩ := exists_succ short
    rw [WrittenType.type, readType, readHeaded_variable]
  | .array component =>
    rw [WrittenType.spelling, List.cons_append] at short ⊢
    obtain ⟨count, rfl, within⟩ := exists_succ short
    have hcomponent := readType_spelling component count rest within
    rw [WrittenType.type, readType]
    simp [readHeaded, hcomponent]
  | .object outer nested =>
    rw [WrittenType.spelling, List.cons_append, List.append_assoc, List.append_assoc,
      List.singleton_append] at short ⊢
    obtain ⟨count, rfl, within⟩ := exists_succ short
    have hbody := readClass_spelling outer nested count [] rest within
    rw [WrittenType.type, readType]
    simp [readHeaded, hbody]
termination_by sizeOf t

/-- The parts of the name of a class are read to the end of the class. -/
theorem readClass_spelling (part : WrittenPart) (nested : List WrittenPart) (count : Nat)
    (kept : List TypeArgument) (rest : List Char)
    (short : (part.spelling ++ (nestedSpelling nested ++ ';' :: rest)).length ≤ count) :
    readClass count kept (part.spelling ++ (nestedSpelling nested ++ ';' :: rest)) =
      .ok ((String.intercalate "$" (part.name :: nested.map (·.name)),
        lastGiven kept (part.arguments :: nestedArguments nested)), rest) := by
  match part, nested with
  | .mk name [], [] =>
    rw [WrittenPart.spelling, nestedSpelling, List.nil_append] at short ⊢
    obtain ⟨count, rfl, -⟩ := exists_succ_append short
    rw [readClass_end]
    simp [WrittenPart.name, WrittenPart.arguments, nestedArguments, argumentTypes]
  | .mk name [], inner :: others =>
    rw [WrittenPart.spelling, nestedSpelling, List.cons_append, List.append_assoc] at short ⊢
    obtain ⟨count, rfl, within⟩ := exists_succ_append short
    rw [readClass_dot, readClass_spelling inner others count kept rest within]
    simp [WrittenPart.name, WrittenPart.arguments, nestedArguments, argumentTypes,
      String.intercalate_cons_cons]
  | .mk name (argument :: arguments), [] =>
    rw [spelling_bracketed, nestedSpelling, List.nil_append] at short ⊢
    obtain ⟨count, rfl, within⟩ := exists_succ_append short
    have harguments := readArguments_spelling (argument :: arguments) count _ within
    rw [readClass_open_end _ _ harguments]
    simp [WrittenPart.name, WrittenPart.arguments, nestedArguments, argumentTypes]
  | .mk name (argument :: arguments), inner :: others =>
    rw [spelling_bracketed, nestedSpelling, List.cons_append, List.append_assoc] at short ⊢
    obtain ⟨count, rfl, within⟩ := exists_succ_append short
    have harguments := readArguments_spelling (argument :: arguments) count _ within
    rw [List.length_append, List.length_cons, List.length_cons] at within
    have hinner := readClass_spelling inner others count
      (argumentTypes (argument :: arguments)) rest (by omega)
    rw [readClass_open_dot _ _ harguments, hinner]
    simp [WrittenPart.name, WrittenPart.arguments, nestedArguments, argumentTypes,
      String.intercalate_cons_cons]
termination_by sizeOf part + sizeOf nested

/-- Arguments are read to their closing bracket. -/
theorem readArguments_spelling (arguments : List WrittenArgument) (count : Nat) (rest : List Char)
    (short : (argumentsSpelling arguments ++ '>' :: rest).length ≤ count) :
    readArguments count (argumentsSpelling arguments ++ '>' :: rest) =
      .ok (argumentTypes arguments, rest) := by
  match arguments with
  | [] =>
    rw [argumentsSpelling, List.nil_append] at short ⊢
    obtain ⟨count, rfl, -⟩ := exists_succ short
    rfl
  | .any :: others =>
    rw [argumentsSpelling, WrittenArgument.spelling, List.append_assoc, List.singleton_append]
      at short ⊢
    obtain ⟨count, rfl, within⟩ := exists_succ short
    have hothers := readArguments_spelling others count rest within
    simp [readArguments, hothers, argumentTypes, WrittenArgument.argument]
  | .exact t :: others =>
    rw [argumentsSpelling, WrittenArgument.spelling, List.append_assoc] at short ⊢
    have htype := readType_spelling t count _ short
    obtain ⟨c, letters, hspell, hc⟩ := t.exists_spelling
    rw [hspell, List.cons_append] at short htype ⊢
    obtain ⟨count, rfl, within⟩ := exists_succ short
    rw [List.length_append] at within
    have hothers := readArguments_spelling others count rest (by omega)
    rw [readArguments_exact hc, htype]
    simp [hothers, argumentTypes, WrittenArgument.argument]
  | .atMost bound :: others | .atLeast bound :: others =>
    rw [argumentsSpelling, WrittenArgument.spelling, List.append_assoc, List.cons_append]
      at short ⊢
    obtain ⟨count, rfl, within⟩ := exists_succ short
    have hbound := readType_spelling bound count _ within
    rw [List.length_append] at within
    have hothers := readArguments_spelling others count rest (by omega)
    simp [readArguments, hbound, hothers, argumentTypes, WrittenArgument.argument]
termination_by sizeOf arguments

end

/-! ## Type parameters -/

/-- Bounds by interfaces are read up to the first letter that is no colon. -/
theorem readBounds_spelling {interfaces : List Bound} {more : List Char}
    (enough : interfaces.length ≤ count) (stop : ∀ letters, more ≠ ':' :: letters) :
    readBounds count (interfacesSpelling interfaces ++ more) = .ok more := by
  induction interfaces generalizing count with
  | nil =>
    rw [interfacesSpelling, List.flatMap_nil, List.nil_append]
    unfold readBounds
    split
    · exact absurd rfl (stop _)
    · rfl
  | cons bound interfaces ih =>
    obtain ⟨count, rfl⟩ :=
      Nat.exists_eq_add_one_of_ne_zero (Nat.ne_of_gt (Nat.zero_lt_of_lt enough))
    have hrest := ih (Nat.le_of_succ_le_succ enough)
    rw [interfacesSpelling] at hrest ⊢
    rw [List.flatMap_cons, List.append_assoc, List.cons_append, readBounds,
      readType_spelling bound.type _ _ (Nat.le_refl _), ok_bind]
    exact hrest

/-- After the colon that follows the name of a type parameter its bounds are skipped. -/
theorem skipBounds_spelling (bounds : WrittenBounds) {more : List Char}
    (stop : ∀ letters, more ≠ ':' :: letters) :
    ∃ letters, bounds.spelling ++ more = ':' :: letters ∧ skipBounds letters = .ok more := by
  have hlength (interfaces : List Bound) :
      interfaces.length ≤ (interfacesSpelling interfaces ++ more).length := by
    rw [List.length_append]
    exact Nat.le_add_right_of_le (length_le_length_flatMap fun _ _ => List.cons_ne_nil _ _)
  cases bounds with
  | ofClass bound interfaces =>
    refine ⟨bound.type.spelling ++ (interfacesSpelling interfaces ++ more),
      by simp [WrittenBounds.spelling], ?_⟩
    have hbound := readType_spelling bound.type _ (interfacesSpelling interfaces ++ more)
      (Nat.le_refl _)
    obtain ⟨c, letters, hspell, hc⟩ := bound.exists_spelling
    rw [hspell, List.cons_append] at hbound ⊢
    rw [skipBounds, if_pos hc, hbound, ok_bind]
    exact readBounds_spelling (hlength interfaces) stop
  | ofInterfaces first others =>
    refine ⟨interfacesSpelling (first :: others) ++ more, by simp [WrittenBounds.spelling], ?_⟩
    have hbounds := readBounds_spelling (hlength (first :: others)) stop
    rw [interfacesSpelling, List.flatMap_cons, List.cons_append, List.cons_append] at hbounds ⊢
    rw [skipBounds, if_neg (by decide)]
    exact hbounds

/-- The name of a type parameter is no end of the declaration, and no bound of the one before. -/
theorem VariableName.exists_letters (name : VariableName) :
    ∃ c letters, name.text.toList = c :: letters ∧ c ≠ ':' ∧ c ≠ '>' := by
  cases h : name.text.toList with
  | nil => exact absurd (String.toList_eq_nil_iff.mp h) name.nonempty
  | cons c letters =>
    obtain ⟨-, hcolon, -, hclose⟩ := name.plain c (h ▸ List.mem_cons_self)
    exact ⟨c, letters, rfl, hcolon, hclose⟩

theorem WrittenParameter.exists_spelling (p : WrittenParameter) :
    ∃ c letters, p.spelling = c :: letters ∧ c ≠ ':' ∧ c ≠ '>' := by
  obtain ⟨c, letters, hname, hc⟩ := p.name.exists_letters
  exact ⟨c, letters ++ p.bounds.spelling, by rw [spelling, hname, List.cons_append], hc⟩

theorem readParameterNames_spelling (rest : List Char) {declared : List WrittenParameter}
    (enough : declared.length ≤ count) :
    readParameterNames count (declared.flatMap WrittenParameter.spelling ++ '>' :: rest) =
      .ok (declared.map (·.name.text), rest) := by
  induction declared generalizing count with
  | nil => cases count <;> rfl
  | cons p others ih =>
    obtain ⟨count, rfl⟩ :=
      Nat.exists_eq_add_one_of_ne_zero (Nat.ne_of_gt (Nat.zero_lt_of_lt enough))
    have stop : ∀ letters, others.flatMap WrittenParameter.spelling ++ '>' :: rest ≠
        ':' :: letters := by
      cases others with
      | nil => simp
      | cons q others =>
        obtain ⟨c, letters, hspell, hc, -⟩ := q.exists_spelling
        simp [hspell, hc]
    obtain ⟨letters, hbounds, hskip⟩ := skipBounds_spelling p.bounds stop
    obtain ⟨htake, hdrop⟩ := span_append ':' letters (p.name.not_ends (.inr rfl)) rfl
    rw [List.flatMap_cons, WrittenParameter.spelling, List.append_assoc, List.append_assoc, hbounds]
    obtain ⟨c, name, hname, -, hc⟩ := p.name.exists_letters
    rw [readParameterNames]
    · rw [htake, hdrop, hname, if_neg (by simp), expect_eq_ok.mpr rfl, ok_bind, hskip, ok_bind,
        ih (Nat.le_of_succ_le_succ enough), ← hname, String.ofList_toList]
      rfl
    · rw [hname, List.cons_append]
      rintro _ ⟨⟩
      exact hc rfl

/-- **The declaration of type parameters is read as it is written**, unless what follows a
declaration of none could be taken for one. -/
theorem readDeclaration_spelling (declared : List WrittenParameter)
    (stop : ∀ letters, rest ≠ '<' :: letters) :
    readDeclaration (declarationSpelling declared ++ rest) =
      .ok (declared.map (·.name.text), rest) := by
  cases declared with
  | nil =>
    unfold readDeclaration
    split
    · exact absurd (by assumption) (stop _)
    · rfl
  | cons p others =>
    have hlength : (p :: others).length ≤
        ((p :: others).flatMap WrittenParameter.spelling ++ '>' :: rest).length := by
      rw [List.length_append]
      refine Nat.le_add_right_of_le (length_le_length_flatMap fun q _ => ?_)
      obtain ⟨c, letters, hspell, -⟩ := q.exists_spelling
      exact hspell ▸ List.cons_ne_nil c letters
    have hnames := readParameterNames_spelling rest hlength
    simpa [declarationSpelling, readDeclaration] using hnames

/-! ## Signatures -/

/-- Types are parameters and results of a method whatever the bound of the letters that are left. -/
theorem WrittenType.readsBack (t : WrittenType) (bound : Nat) :
    ReadsBack (readType bound) WrittenType.spelling WrittenType.type bound t where
  starts := by
    obtain ⟨c, letters, hspell, hc⟩ := t.exists_spelling
    obtain ⟨hclose, hvoid, -⟩ := ne_of_mem_typeLetters hc
    exact ⟨c, letters, hspell, hclose, hvoid⟩
  reads := readType_spelling t bound

/-- **Signatures are read as they are written.** A type is read from its text, with the parts of
class names joined and the last arguments that are given; a method gives its parameters and its
returned type, whatever it declares besides; and the signature of a class gives the names of its
type parameters in their order. -/
theorem signatures_read :
    (∀ t : WrittenType, GenericType.ofSignature t.text = .ok t.type) ∧
      (∀ m : WrittenMethod, GenericMethod.ofSignature m.text =
        .ok ⟨m.parameters.map (·.type), m.returns.map (·.type)⟩) ∧
      ∀ h : WrittenHeader, typeParameters h.text = .ok (h.declared.map (·.name.text)) := by
  refine ⟨fun t => ?_, fun m => ?_, fun h => ?_⟩
  · have hread := readType_spelling t (t.spelling ++ []).length [] (Nat.le_refl _)
    rw [List.append_nil] at hread
    rw [GenericType.ofSignature, WrittenType.text, String.toList_ofList, hread]
    rfl
  · rw [GenericMethod.ofSignature, WrittenMethod.text, String.toList_ofList, WrittenMethod.spelling,
      readDeclaration_spelling m.declared (by simp), ok_bind]
    dsimp only
    rw [readMethod_append _ (fun t _ => t.readsBack _) (fun t _ => t.readsBack _) (by simp)]
    rfl
  · rw [typeParameters, WrittenHeader.text, String.toList_ofList, WrittenHeader.spelling,
      readDeclaration_spelling h.declared ?_]
    · rfl
    · obtain ⟨c, letters, hspell, hc⟩ := h.superclass.exists_spelling
      rcases hc with rfl | rfl | rfl <;> simp [hspell]

end ApiSurface.Signature
