import TripleStore.Query.Lexer

/-!
Contract: numbers as their regular expression has them, and the longest one at the start of
a text.

Owns:
- `IsNumber`, the texts of the expression `[-+]?[0-9]*\.?[0-9]+([eE][-+]?[0-9]+)?`;
- that the spelling of a number at the start of the characters is one of these texts, and
  no shorter than any other that the characters start with.

Does not own: where in a query a number may stand (`TripleStore.Proofs.Query.Grammar`).
-/

namespace TripleStore.Query

/-! ## The expression -/

def AreDigits (text : List Char) : Prop :=
  ∀ digit ∈ text, digit.isDigit = true

/-- The expression `[-+]?`. -/
def IsSign (text : List Char) : Prop :=
  text = [] ∨ text = ['-'] ∨ text = ['+']

/-- The expression `[0-9]*\.?[0-9]+`. -/
inductive IsMantissa : List Char → Prop where
  | parts
      (whole point fraction : List Char)
      (wholeDigits : AreDigits whole)
      (atMostOne : point = [] ∨ point = ['.'])
      (fractionDigits : AreDigits fraction)
      (someDigit : fraction ≠ []) :
      IsMantissa (whole ++ point ++ fraction)

/-- The expression `[eE][-+]?[0-9]+`. -/
inductive IsExponent : List Char → Prop where
  | parts
      (mark : Char)
      (sign digits : List Char)
      (isMark : mark = 'e' ∨ mark = 'E')
      (isSign : IsSign sign)
      (areDigits : AreDigits digits)
      (someDigit : digits ≠ []) :
      IsExponent (mark :: (sign ++ digits))

/-- The expression `[-+]?[0-9]*\.?[0-9]+([eE][-+]?[0-9]+)?`. -/
inductive IsNumber : List Char → Prop where
  | parts
      (sign mantissa exponent : List Char)
      (isSign : IsSign sign)
      (isMantissa : IsMantissa mantissa)
      (atMostOne : exponent = [] ∨ IsExponent exponent) :
      IsNumber (sign ++ mantissa ++ exponent)

/-! ## Signs and digits -/

variable {characters rest : List Char}

/-- What starts the characters, and what then starts the rest of them. -/
theorem append_isPrefix
    {front back : List Char}
    (frontPrefix : front <+: characters)
    (backPrefix : back <+: characters.drop front.length) :
    front ++ back <+: characters := by
  rw [← List.prefix_append_right_inj front] at backPrefix
  rwa [List.prefix_iff_eq_append.mp frontPrefix] at backPrefix

theorem isSign_signSpelling (characters : List Char) : IsSign (signSpelling characters) := by
  unfold signSpelling IsSign
  split
  · exact Or.inl rfl
  · split
    · next isSign => simpa using isSign
    · exact Or.inl rfl

theorem signSpelling_isPrefix (characters : List Char) :
    signSpelling characters <+: characters := by
  unfold signSpelling
  split
  · exact List.nil_prefix
  · next first others =>
      split
      · exact ⟨others, rfl⟩
      · exact List.nil_prefix

/-- A sign is found whole, unless a second one follows. -/
theorem signSpelling_append
    {sign : List Char}
    (isSign : IsSign sign)
    (noSign : signSpelling rest = []) :
    signSpelling (sign ++ rest) = sign := by
  rcases isSign with rfl | rfl | rfl
  · exact noSign
  · rfl
  · rfl

theorem areDigits_digitSpelling (characters : List Char) :
    AreDigits (digitSpelling characters) :=
  List.all_eq_true.mp List.all_takeWhile

theorem digitSpelling_isPrefix (characters : List Char) :
    digitSpelling characters <+: characters :=
  List.takeWhile_prefix _

theorem digitSpelling_append {digits : List Char} (areDigits : AreDigits digits) :
    digitSpelling (digits ++ rest) = digits ++ digitSpelling rest :=
  List.takeWhile_append_of_pos areDigits

/-- Digits are no sign. -/
theorem signSpelling_of_isDigit {first : Char} (isDigit : first.isDigit = true) :
    signSpelling (first :: rest) = [] := by
  have noMinus : first ≠ '-' := by
    rintro rfl
    exact absurd isDigit (by decide)
  have noPlus : first ≠ '+' := by
    rintro rfl
    exact absurd isDigit (by decide)
  simp [signSpelling, noMinus, noPlus]

/-! ## Mantissas -/

/-- A mantissa is the digits at the start, or these, a point and the digits behind it. -/
theorem mantissaSpelling_cases (characters : List Char) :
    mantissaSpelling characters = digitSpelling characters ∨
      ∃ others, characters = digitSpelling characters ++ '.' :: others ∧
        digitSpelling others ≠ [] ∧
          mantissaSpelling characters =
            digitSpelling characters ++ '.' :: digitSpelling others := by
  unfold mantissaSpelling
  dsimp only
  split
  · next others behindWhole =>
      split
      · exact Or.inl rfl
      · next someDigit =>
          refine Or.inr ⟨others, ?_, someDigit, rfl⟩
          rw [← behindWhole]
          exact (List.prefix_iff_eq_append.mp (digitSpelling_isPrefix characters)).symm
  · exact Or.inl rfl

theorem mantissaSpelling_isPrefix (characters : List Char) :
    mantissaSpelling characters <+: characters := by
  rcases mantissaSpelling_cases characters with digits | ⟨others, whole, _, pointed⟩
  · rw [digits]
    exact digitSpelling_isPrefix characters
  · have behind : digitSpelling characters ++ '.' :: digitSpelling others <+:
        digitSpelling characters ++ '.' :: others := by
      rw [List.prefix_append_right_inj, List.cons_prefix_cons]
      exact ⟨rfl, digitSpelling_isPrefix others⟩
    rwa [← whole, ← pointed] at behind

theorem isMantissa_digits
    {digits : List Char}
    (areDigits : AreDigits digits)
    (someDigit : digits ≠ []) :
    IsMantissa digits :=
  IsMantissa.parts [] [] digits (by simp [AreDigits]) (Or.inl rfl) areDigits someDigit

theorem isMantissa_mantissaSpelling (found : mantissaSpelling characters ≠ []) :
    IsMantissa (mantissaSpelling characters) := by
  have wholeDigits := areDigits_digitSpelling characters
  rcases mantissaSpelling_cases characters with digits | ⟨others, _, someDigit, pointed⟩
  · rw [digits] at found ⊢
    exact isMantissa_digits wholeDigits found
  · have parts := IsMantissa.parts (digitSpelling characters) ['.'] (digitSpelling others)
      wholeDigits (Or.inr rfl) (areDigits_digitSpelling others) someDigit
    rw [pointed]
    simpa using parts

/-- The whole digits at the start are part of the mantissa. -/
theorem length_digitSpelling_le (characters : List Char) :
    (digitSpelling characters).length ≤ (mantissaSpelling characters).length := by
  rcases mantissaSpelling_cases characters with digits | ⟨others, _, _, pointed⟩
  · exact Nat.le_of_eq (congrArg List.length digits.symm)
  · rw [pointed, List.length_append]
    exact Nat.le_add_right _ _

theorem mantissaSpelling_pointed
    {whole fraction : List Char}
    (wholeDigits : AreDigits whole)
    (fractionDigits : AreDigits fraction)
    (someDigit : fraction ≠ [])
    (rest : List Char) :
    mantissaSpelling (whole ++ '.' :: (fraction ++ rest)) =
      whole ++ '.' :: (fraction ++ digitSpelling rest) := by
  have wholeFound : digitSpelling (whole ++ '.' :: (fraction ++ rest)) = whole := by
    rw [digitSpelling_append wholeDigits]
    simp [digitSpelling]
  unfold mantissaSpelling
  simp only [wholeFound, List.drop_left, digitSpelling_append fractionDigits]
  split
  · next noFraction => simp_all
  · rfl

/-- No mantissa at the start is longer than the spelled one. -/
theorem IsMantissa.length_le
    {mantissa : List Char}
    (isMantissa : IsMantissa mantissa)
    (rest : List Char) :
    mantissa.length ≤ (mantissaSpelling (mantissa ++ rest)).length := by
  rcases isMantissa with ⟨whole, point, fraction, wholeDigits, rfl | rfl, fractionDigits, someDigit⟩
  · have areDigits : AreDigits (whole ++ [] ++ fraction) := by
      simpa [AreDigits, or_imp, forall_and] using ⟨wholeDigits, fractionDigits⟩
    refine Nat.le_trans ?_ (length_digitSpelling_le _)
    rw [digitSpelling_append areDigits]
    simp
  · simp [mantissaSpelling_pointed wholeDigits fractionDigits someDigit]

/-- A mantissa is found whole if the mark of an exponent follows. -/
theorem IsMantissa.mantissaSpelling_append
    {mantissa : List Char}
    (isMantissa : IsMantissa mantissa)
    {mark : Char}
    (isMark : mark = 'e' ∨ mark = 'E') :
    mantissaSpelling (mantissa ++ mark :: rest) = mantissa := by
  have noDigit : digitSpelling (mark :: rest) = [] := by
    rcases isMark with rfl | rfl <;> rfl
  rcases isMantissa with ⟨whole, point, fraction, wholeDigits, rfl | rfl, fractionDigits, someDigit⟩
  · have areDigits : AreDigits (whole ++ [] ++ fraction) := by
      simpa [AreDigits, or_imp, forall_and] using ⟨wholeDigits, fractionDigits⟩
    have found : digitSpelling (whole ++ [] ++ fraction ++ mark :: rest) =
        whole ++ [] ++ fraction := by
      rw [digitSpelling_append areDigits, noDigit, List.append_nil]
    unfold mantissaSpelling
    simp only [found, List.drop_left]
    rcases isMark with rfl | rfl <;> rfl
  · have found := mantissaSpelling_pointed wholeDigits fractionDigits someDigit (mark :: rest)
    rw [noDigit, List.append_nil] at found
    simpa using found

/-! ## Exponents -/

theorem exponentSpelling_cases (characters : List Char) :
    exponentSpelling characters = [] ∨
      IsExponent (exponentSpelling characters) ∧ exponentSpelling characters <+: characters := by
  unfold exponentSpelling
  split
  · exact Or.inl rfl
  · next first others =>
      split
      · next isMark =>
          dsimp only
          split
          · exact Or.inl rfl
          · next someDigit =>
              refine Or.inr ⟨?_, ?_⟩
              · exact IsExponent.parts first _ _ (by simpa using isMark)
                  (isSign_signSpelling others) (areDigits_digitSpelling _) someDigit
              · rw [List.cons_prefix_cons]
                exact ⟨rfl, append_isPrefix (signSpelling_isPrefix others)
                  (digitSpelling_isPrefix _)⟩
      · exact Or.inl rfl

/-- Digits in front are no sign. -/
theorem signSpelling_digits
    {digits : List Char}
    (areDigits : AreDigits digits)
    (someDigit : digits ≠ []) :
    signSpelling (digits ++ rest) = [] := by
  cases digits with
  | nil => exact absurd rfl someDigit
  | cons first others => exact signSpelling_of_isDigit (areDigits first (by simp))

/-- No exponent at the start is longer than the spelled one. -/
theorem IsExponent.length_le
    {exponent : List Char}
    (isExponent : IsExponent exponent)
    (rest : List Char) :
    exponent.length ≤ (exponentSpelling (exponent ++ rest)).length := by
  rcases isExponent with ⟨mark, sign, digits, isMark, isSign, areDigits, someDigit⟩
  have signFound : signSpelling (sign ++ (digits ++ rest)) = sign :=
    signSpelling_append isSign (signSpelling_digits areDigits someDigit)
  have digitsFound : digitSpelling (digits ++ rest) = digits ++ digitSpelling rest :=
    digitSpelling_append areDigits
  have spelled : exponentSpelling (mark :: (sign ++ digits) ++ rest) =
      mark :: (sign ++ (digits ++ digitSpelling rest)) := by
    rw [List.cons_append, List.append_assoc, exponentSpelling, if_pos (by simpa using isMark)]
    dsimp only
    rw [signFound, List.drop_left, digitsFound]
    split
    · next noDigit => exact absurd (List.append_eq_nil_iff.mp noDigit).1 someDigit
    · rfl
  rw [spelled]
  simp

/-! ## Numbers -/

/-- The characters of a number that a mantissa is found in. -/
def unsigned (characters : List Char) : List Char :=
  characters.drop (signSpelling characters).length

theorem numberSpelling_of_mantissa (found : mantissaSpelling (unsigned characters) ≠ []) :
    numberSpelling characters =
      signSpelling characters ++ mantissaSpelling (unsigned characters) ++
        exponentSpelling
          ((unsigned characters).drop (mantissaSpelling (unsigned characters)).length) := by
  unfold numberSpelling
  dsimp only
  split
  · next noMantissa => exact absurd noMantissa found
  · rfl

theorem numberSpelling_of_no_mantissa (missing : mantissaSpelling (unsigned characters) = []) :
    numberSpelling characters = [] := by
  unfold numberSpelling
  dsimp only
  split
  · rfl
  · next found => exact absurd missing found

/-- What is spelled at the start is a number. -/
theorem isNumber_numberSpelling (found : numberSpelling characters ≠ []) :
    IsNumber (numberSpelling characters) ∧ numberSpelling characters <+: characters := by
  by_cases mantissa : mantissaSpelling (unsigned characters) = []
  · exact absurd (numberSpelling_of_no_mantissa mantissa) found
  · have exponent := exponentSpelling_cases
      ((unsigned characters).drop (mantissaSpelling (unsigned characters)).length)
    rw [numberSpelling_of_mantissa mantissa]
    constructor
    · exact IsNumber.parts _ _ _ (isSign_signSpelling characters)
        (isMantissa_mantissaSpelling mantissa) (exponent.imp_right And.left)
    · rw [List.append_assoc]
      refine append_isPrefix (signSpelling_isPrefix characters)
        (append_isPrefix (mantissaSpelling_isPrefix _) ?_)
      rcases exponent with none | some
      · rw [none]
        exact List.nil_prefix
      · exact some.2

theorem IsMantissa.signSpelling_append {mantissa : List Char} (isMantissa : IsMantissa mantissa) :
    signSpelling (mantissa ++ rest) = [] := by
  rcases isMantissa with ⟨whole, point, fraction, wholeDigits, atMostOne, fractionDigits, someDigit⟩
  cases whole with
  | cons first others => exact signSpelling_of_isDigit (wholeDigits first (by simp))
  | nil =>
      rcases atMostOne with rfl | rfl
      · exact signSpelling_digits fractionDigits someDigit
      · rfl

theorem IsMantissa.ne_nil {mantissa : List Char} (isMantissa : IsMantissa mantissa) :
    mantissa ≠ [] := by
  rcases isMantissa with ⟨whole, point, fraction, _, _, _, someDigit⟩
  simp [someDigit]

theorem IsNumber.ne_nil {text : List Char} (isNumber : IsNumber text) : text ≠ [] := by
  rcases isNumber with ⟨sign, mantissa, exponent, _, isMantissa, _⟩
  simp [isMantissa.ne_nil]

/-- No number at the start is longer than the spelled one. -/
theorem IsNumber.length_le
    {text : List Char}
    (isNumber : IsNumber text)
    (rest : List Char) :
    text.length ≤ (numberSpelling (text ++ rest)).length := by
  rcases isNumber with ⟨sign, mantissa, exponent, isSign, isMantissa, atMostOne⟩
  have signFound : signSpelling (sign ++ mantissa ++ exponent ++ rest) = sign := by
    rw [List.append_assoc, List.append_assoc]
    exact signSpelling_append isSign isMantissa.signSpelling_append
  have behindSign : unsigned (sign ++ mantissa ++ exponent ++ rest) =
      mantissa ++ (exponent ++ rest) := by
    rw [unsigned, signFound, List.append_assoc, List.append_assoc, List.drop_left]
  have mantissaLength := isMantissa.length_le (exponent ++ rest)
  have found : mantissaSpelling (mantissa ++ (exponent ++ rest)) ≠ [] := by
    rw [← List.length_pos_iff]
    exact Nat.lt_of_lt_of_le (List.length_pos_iff.mpr isMantissa.ne_nil) mantissaLength
  rw [numberSpelling_of_mantissa (by rwa [behindSign]), behindSign, signFound]
  rcases atMostOne with rfl | isExponent
  · simp only [List.length_append, List.length_nil]
    omega
  · have exponentLength := isExponent.length_le rest
    rcases isExponent with ⟨mark, exponentSign, digits, isMark, _, _, _⟩
    have mantissaFound : mantissaSpelling
        (mantissa ++ (mark :: (exponentSign ++ digits) ++ rest)) = mantissa :=
      isMantissa.mantissaSpelling_append isMark
    rw [mantissaFound, List.drop_left]
    simp only [List.length_append] at exponentLength ⊢
    omega

/-- The characters that numbers are made of. -/
def IsNumberCharacter (character : Char) : Prop :=
  character.isDigit = true ∨ character ∈ ['+', '-', '.', 'e', 'E']

theorem IsSign.isNumberCharacter
    {sign : List Char}
    (isSign : IsSign sign)
    {character : Char}
    (member : character ∈ sign) :
    IsNumberCharacter character := by
  rcases isSign with rfl | rfl | rfl <;> simp_all [IsNumberCharacter]

theorem IsNumber.isNumberCharacter
    {text : List Char}
    (isNumber : IsNumber text)
    {character : Char}
    (member : character ∈ text) :
    IsNumberCharacter character := by
  rcases isNumber with ⟨sign, _, exponent, isSign, isMantissa, atMostOne⟩
  rcases isMantissa with ⟨whole, point, fraction, wholeDigits, onePoint, fractionDigits, _⟩
  rw [List.mem_append, List.mem_append, List.mem_append, List.mem_append] at member
  rcases member with (inSign | (inWhole | inPoint) | inFraction) | inExponent
  · exact isSign.isNumberCharacter inSign
  · exact Or.inl (wholeDigits character inWhole)
  · rcases onePoint with rfl | rfl <;> simp_all [IsNumberCharacter]
  · exact Or.inl (fractionDigits character inFraction)
  · rcases atMostOne with rfl | isExponent
    · simp at inExponent
    · rcases isExponent with ⟨mark, exponentSign, digits, isMark, isExponentSign, areDigits, _⟩
      rw [List.mem_cons, List.mem_append] at inExponent
      rcases inExponent with rfl | inSign | inDigits
      · rcases isMark with rfl | rfl <;> simp [IsNumberCharacter]
      · exact isExponentSign.isNumberCharacter inSign
      · exact Or.inl (areDigits character inDigits)

/-- A number is found whole if a character that is in no number follows. -/
theorem IsNumber.numberSpelling_append
    {text : List Char}
    (isNumber : IsNumber text)
    (ends : ∀ next ∈ rest.head?, ¬IsNumberCharacter next) :
    numberSpelling (text ++ rest) = text := by
  have atLeast := isNumber.length_le rest
  have found : numberSpelling (text ++ rest) ≠ [] := by
    rw [← List.length_pos_iff]
    exact Nat.lt_of_lt_of_le (List.length_pos_iff.mpr isNumber.ne_nil) atLeast
  rcases isNumber_numberSpelling found with ⟨spelled, atStart⟩
  -- What the spelling has behind the number starts the rest, so it is nothing.
  rcases List.prefix_of_prefix_length_le (List.prefix_append text rest) atStart atLeast with
    ⟨behind, whole⟩
  rw [← whole, List.prefix_append_right_inj] at atStart
  rcases behind with _ | ⟨next, others⟩
  · rw [← whole, List.append_nil]
  · rcases atStart with ⟨more, rfl⟩
    rw [← whole] at spelled
    have inNumber : IsNumberCharacter next := spelled.isNumberCharacter (by simp)
    exact absurd inNumber (ends next (by simp))

/-! ## Where no number starts -/

def StartsNumber (character : Char) : Prop :=
  character.isDigit = true ∨ character ∈ ['+', '-', '.']

instance (character : Char) : Decidable (StartsNumber character) := by
  unfold StartsNumber
  infer_instance

theorem StartsNumber.isNumberCharacter {character : Char} (starts : StartsNumber character) :
    IsNumberCharacter character :=
  starts.imp_right (List.mem_append_left ['e', 'E'])

theorem digitSpelling_eq_nil (ends : ∀ next ∈ rest.head?, ¬StartsNumber next) :
    digitSpelling rest = [] := by
  cases rest with
  | nil => rfl
  | cons next others =>
      exact List.takeWhile_cons_of_neg fun isDigit => ends next rfl (Or.inl isDigit)

theorem mantissaSpelling_eq_nil (ends : ∀ next ∈ rest.head?, ¬StartsNumber next) :
    mantissaSpelling rest = [] := by
  unfold mantissaSpelling
  simp only [digitSpelling_eq_nil ends, List.length_nil, List.drop_zero]
  split
  · exact absurd (Or.inr (by simp)) (ends '.' rfl)
  · rfl

theorem numberSpelling_eq_nil {first : Char} (noStart : ¬StartsNumber first) :
    numberSpelling (first :: rest) = [] := by
  have noSign : signSpelling (first :: rest) = [] := by
    refine if_neg fun isSign => noStart (Or.inr ?_)
    simp only [Bool.or_eq_true, beq_iff_eq] at isSign
    rcases isSign with rfl | rfl <;> decide
  have noMantissa : mantissaSpelling (unsigned (first :: rest)) = [] := by
    rw [unsigned, noSign]
    exact mantissaSpelling_eq_nil (by simpa using noStart)
  exact numberSpelling_of_no_mantissa noMantissa

/-- A sign on its own is no number. -/
theorem numberSpelling_sign
    {sign : Char}
    (isSign : sign = '-' ∨ sign = '+')
    (ends : ∀ next ∈ rest.head?, ¬StartsNumber next) :
    numberSpelling (sign :: rest) = [] := by
  have behindSign : unsigned (sign :: rest) = rest := by
    rcases isSign with rfl | rfl <;> rfl
  refine numberSpelling_of_no_mantissa ?_
  rw [behindSign]
  exact mantissaSpelling_eq_nil ends

/-- A point on its own is no number. -/
theorem numberSpelling_point (ends : ∀ next ∈ rest.head?, ¬StartsNumber next) :
    numberSpelling ('.' :: rest) = [] := by
  refine numberSpelling_of_no_mantissa ?_
  change mantissaSpelling ('.' :: rest) = []
  have noWhole : digitSpelling ('.' :: rest) = [] := rfl
  unfold mantissaSpelling
  simp only [noWhole, List.length_nil, List.drop_zero, digitSpelling_eq_nil ends]

end TripleStore.Query
