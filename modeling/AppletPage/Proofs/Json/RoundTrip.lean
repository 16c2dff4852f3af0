import AppletPage.Proofs.Json.Scalar

/-! Values without real numbers, read back as they were written. Reading spends one unit of fuel for
each step into a value, and each such step has a character of the text for itself. -/

namespace AppletPage

namespace Json

open Text

mutual

/-- The value can be read back: it has no real numbers, no integer of too many digits, and no object
with a name twice. -/
def IsExact : Json → Prop
  | .real _ => False
  | .integer value => (Nat.toDigits 10 value.natAbs).length ≤ digitLimit
  | .array items => ItemsExact items
  | .object fields => (fields.map (·.1)).Nodup ∧ FieldsExact fields
  | _ => True

def ItemsExact : List Json → Prop
  | [] => True
  | item :: rest => IsExact item ∧ ItemsExact rest

def FieldsExact : List (String × Json) → Prop
  | [] => True
  | (_, field) :: rest => IsExact field ∧ FieldsExact rest

end

theorem itemsExact_string (texts : List String) : ItemsExact (texts.map .string) := by
  induction texts with
  | nil => trivial
  | cons text rest ih => exact ⟨trivial, ih⟩

theorem depthOfItems_string_le (texts : List String) : depthOfItems (texts.map .string) ≤ 1 := by
  induction texts with
  | nil => exact Nat.zero_le 1
  | cons text rest ih => exact Nat.max_le.mpr ⟨Nat.le_refl 1, ih⟩

/-! The text of a value, by its form. -/

section

variable (style : Style) (level : Nat)

theorem writeAt_integer (value : Int) :
    writeAt style level (.integer value) = (toString value).toList := by
  unfold writeAt
  rfl

theorem writeAt_string (text : String) :
    writeAt style level (.string text) = writeString style text := by
  unfold writeAt
  rfl

theorem writeAt_array (item : Json) (rest : List Json) :
    writeAt style level (.array (item :: rest)) =
      '[' :: style.newLine (level + 1) ++ writeAt style (level + 1) item
        ++ writeItems style (level + 1) rest ++ style.newLine level ++ [']'] := by
  conv => lhs; unfold writeAt

theorem writeAt_object (name : String) (field : Json) (rest : List (String × Json)) :
    writeAt style level (.object ((name, field) :: rest)) =
      '{' :: style.newLine (level + 1) ++ writeString style name ++ style.colon
        ++ writeAt style (level + 1) field ++ writeFields style (level + 1) rest
        ++ style.newLine level ++ ['}'] := by
  conv => lhs; unfold writeAt

theorem writeItems_nil : writeItems style level [] = [] := rfl

theorem writeItems_cons (item : Json) (rest : List Json) :
    writeItems style level (item :: rest) =
      ',' :: style.newLine level ++ writeAt style level item ++ writeItems style level rest := rfl

theorem writeFields_nil : writeFields style level [] = [] := rfl

theorem writeFields_cons (name : String) (field : Json) (rest : List (String × Json)) :
    writeFields style level ((name, field) :: rest) =
      ',' :: style.newLine level ++ writeString style name ++ style.colon
        ++ writeAt style level field ++ writeFields style level rest := rfl

end

/-! Space. -/

theorem skipSpace_append {space : List Char} (blank : ∀ c ∈ space, isSpace c = true)
    (text : List Char) : skipSpace (space ++ text) = skipSpace text :=
  List.dropWhile_append_of_pos blank

theorem skipSpace_cons {c : Char} (visible : isSpace c = false) (text : List Char) :
    skipSpace (c :: text) = c :: text := by
  rw [skipSpace, List.dropWhile_cons, visible, if_neg Bool.false_ne_true]

theorem isSpace_newLine (style : Style) (level : Nat) :
    ∀ c ∈ style.newLine level, isSpace c = true := by
  intro c member
  unfold Style.newLine at member
  split at member
  · cases member
  · rcases List.mem_cons.mp member with rfl | member
    · rfl
    · rw [List.eq_of_mem_replicate member]
      rfl

theorem endsNumber_cons {c : Char} (ends : continuesNumber c = false) (rest : List Char) :
    EndsNumber (c :: rest) := by
  intro d others same
  cases same
  exact ends

theorem endsNumber_newLine (style : Style) (level : Nat) {c : Char}
    (ends : continuesNumber c = false) (rest : List Char) :
    EndsNumber (style.newLine level ++ c :: rest) := by
  unfold Style.newLine
  split
  · exact endsNumber_cons ends rest
  · exact endsNumber_cons rfl _

/-! Values by themselves. -/

theorem writeString_append (style : Style) (text : String) (rest : List Char) :
    writeString style text ++ rest =
      '"' :: (text.toList.flatMap (escapeChar style.asciiOnly) ++ '"' :: rest) := by
  rw [writeString, List.cons_append, List.cons_append, List.append_assoc, List.singleton_append]

theorem atom_string (style : Style) (text : String) (rest : List Char) :
    atom (writeString style text ++ rest) = .ok (.string text, rest) := by
  rw [writeString_append, atom, stringBody_written]
  dsimp only
  rw [String.ofList_toList]

theorem atom_of_isDigit {c : Char} (digit : isDigit c = true) (text : List Char) :
    atom (c :: text) = number (c :: text) false (c :: text) := by
  have differs (other : Char) (noDigit : isDigit other = false) : c ≠ other := by
    rintro rfl
    rw [digit] at noDigit
    cases noDigit
  unfold atom
  split
  · next given => cases given; exact absurd rfl (differs _ rfl)
  · next given => cases given; exact absurd rfl (differs _ rfl)
  · next given => cases given; exact absurd rfl (differs _ rfl)
  · next given => cases given; exact absurd rfl (differs _ rfl)
  · next given => cases given; exact absurd rfl (differs _ rfl)
  · next given => cases given; exact absurd rfl (differs _ rfl)
  · next given => cases given; exact absurd rfl (differs _ rfl)
  · next given => cases given; exact absurd rfl (differs _ rfl)
  · rfl

theorem atom_minus {c : Char} (digit : isDigit c = true) (text : List Char) :
    atom ('-' :: c :: text) = number ('-' :: c :: text) true (c :: text) := by
  unfold atom
  split
  · next given => cases given
  · next given => cases given
  · next given => cases given
  · next given => cases given
  · next given => cases given
  · next given => cases given
  · next given => cases given; cases digit
  · next given => cases given; rfl
  · next noMinus => exact (noMinus _ rfl).elim

theorem toList_toString_ofNat (n : Nat) : (toString (n : Int)).toList = Nat.toDigits 10 n :=
  toList_toString n

theorem toList_toString_negSucc (n : Nat) :
    (toString (Int.negSucc n)).toList = '-' :: Nat.toDigits 10 (n + 1) := by
  change ("-" ++ toString (n + 1)).toList = _
  rw [String.toList_append, toList_toString]
  rfl

theorem exists_toDigits_cons (n : Nat) :
    ∃ c digits, Nat.toDigits 10 n = c :: digits ∧ isDigit c = true := by
  cases shape : Nat.toDigits 10 n with
  | nil => exact absurd shape Nat.toDigits_ne_nil
  | cons c digits =>
      exact ⟨c, digits, rfl, isDigit_of_mem_toDigits (shape ▸ List.mem_cons_self)⟩

theorem exists_toString_cons (value : Int) :
    ∃ c text, (toString value).toList = c :: text ∧ (isDigit c = true ∨ c = '-') := by
  cases value with
  | ofNat n =>
      obtain ⟨c, digits, shape, digit⟩ := exists_toDigits_cons n
      exact ⟨c, digits, (toList_toString_ofNat n).trans shape, .inl digit⟩
  | negSucc n => exact ⟨'-', _, toList_toString_negSucc n, .inr rfl⟩

theorem atom_integer (value : Int) {rest : List Char} (ends : EndsNumber rest)
    (fits : (Nat.toDigits 10 value.natAbs).length ≤ digitLimit) :
    atom ((toString value).toList ++ rest) = .ok (.integer value, rest) := by
  cases value with
  | ofNat n =>
      obtain ⟨c, digits, shape, digit⟩ := exists_toDigits_cons n
      have read := number_toDigits n (c :: (digits ++ rest)) false ends fits
      rw [shape, List.cons_append] at read
      rw [Int.ofNat_eq_natCast, toList_toString_ofNat, shape, List.cons_append,
        atom_of_isDigit digit, read]
      rfl
  | negSucc n =>
      obtain ⟨c, digits, shape, digit⟩ := exists_toDigits_cons (n + 1)
      have read := number_toDigits (n + 1) ('-' :: c :: (digits ++ rest)) true ends fits
      rw [shape, List.cons_append] at read
      rw [toList_toString_negSucc, shape, List.cons_append, List.cons_append, atom_minus digit,
        read]
      rfl

theorem ne_of_isDigit {c other : Char} (digit : isDigit c = true ∨ c = '-')
    (differs : isDigit other = false ∧ other ≠ '-') : c ≠ other := by
  rintro rfl
  rcases digit with digit | same
  · rw [differs.1] at digit
    cases digit
  · exact differs.2 same

/-- The character begins the text of a value: it neither is space, nor ends an array, nor is a mark
of the encoding. -/
structure OpensValue (c : Char) : Prop where
  visible : isSpace c = false
  more : c ≠ ']'
  noMark : c.toNat ≠ 0xfeff

theorem opensValue_of_isDigit {c : Char} (digit : isDigit c = true ∨ c = '-') : OpensValue c := by
  refine ⟨?_, ne_of_isDigit digit (by decide), ?_⟩
  · simp only [isSpace, Bool.or_eq_false_iff, decide_eq_false_iff_not]
    exact ⟨⟨⟨ne_of_isDigit digit (by decide), ne_of_isDigit digit (by decide)⟩,
      ne_of_isDigit digit (by decide)⟩, ne_of_isDigit digit (by decide)⟩
  · rcases digit with digit | rfl
    · have bounds := toNat_of_isDigit digit
      omega
    · decide

theorem exists_writeAt_cons (style : Style) (level : Nat) {given : Json} (exact : IsExact given) :
    ∃ c text, writeAt style level given = c :: text ∧ OpensValue c := by
  cases given with
  | null => exact ⟨_, _, rfl, by decide, by decide, by decide⟩
  | bool value => cases value <;> exact ⟨_, _, rfl, by decide, by decide, by decide⟩
  | integer value =>
      obtain ⟨c, text, shape, digit⟩ := exists_toString_cons value
      exact ⟨c, text, (writeAt_integer style level value).trans shape, opensValue_of_isDigit digit⟩
  | real value => exact exact.elim
  | string text =>
      rw [writeAt_string, writeString, List.cons_append]
      exact ⟨_, _, rfl, by decide, by decide, by decide⟩
  | array items => cases items <;> exact ⟨_, _, rfl, by decide, by decide, by decide⟩
  | object fields => cases fields <;> exact ⟨_, _, rfl, by decide, by decide, by decide⟩

/-! Values with values in them. -/

section

variable (style : Style) (fuel : Nat)

def ReadsValues : Prop :=
  ∀ (given : Json) (level room : Nat) (rest : List Char), IsExact given → EndsNumber rest →
    depth given ≤ room → 2 * (writeAt style level given).length ≤ fuel →
      value fuel room (writeAt style level given ++ rest) = .ok (given, rest)

def ReadsItems : Prop :=
  ∀ (item : Json) (others : List Json) (level above room : Nat) (rest : List Char),
    IsExact item → ItemsExact others → depthOfItems (item :: others) ≤ room →
    2 * ((writeAt style level item).length + (writeItems style level others).length) < fuel →
      items fuel room (writeAt style level item ++ (writeItems style level others ++
        (style.newLine above ++ ']' :: rest))) = .ok (item :: others, rest)

def ReadsFields : Prop :=
  ∀ (name : String) (field : Json) (others : List (String × Json)) (level above room : Nat)
    (rest : List Char), IsExact field → FieldsExact others →
    depthOfFields ((name, field) :: others) ≤ room →
    2 * ((writeAt style level field).length + (writeFields style level others).length) < fuel →
      fields fuel room (writeString style name ++ (style.colon ++ (writeAt style level field ++
        (writeFields style level others ++ (style.newLine above ++ '}' :: rest))))) =
        .ok ((name, field) :: others, rest)

end

variable {style : Style} {fuel : Nat}

theorem value_atom {c : Char} (noArray : c ≠ '[') (noObject : c ≠ '{') (room : Nat)
    (text : List Char) : value (fuel + 1) room (c :: text) = atom (c :: text) := by
  rw [value]
  · exact fun _ same => noArray (List.cons.inj same).1
  · exact fun _ same => noObject (List.cons.inj same).1

theorem value_array {room : Nat} {rest text tail : List Char} {c : Char} {given : List Json}
    (opens : skipSpace rest = c :: text) (more : c ≠ ']')
    (read : items fuel room (c :: text) = .ok (given, tail)) :
    value (fuel + 1) (room + 1) ('[' :: rest) = .ok (.array given, tail) := by
  rw [value, opens]
  split
  · next closed => exact absurd (List.cons.inj closed).1 more
  · rw [read]
    rfl

theorem value_object {room : Nat} {rest text tail : List Char} {given : List (String × Json)}
    (opens : skipSpace rest = '"' :: text)
    (read : fields fuel room ('"' :: text) = .ok (given, tail)) :
    value (fuel + 1) (room + 1) ('{' :: rest) = .ok (.object (Mapping.ofList given), tail) := by
  rw [value, opens]
  split
  · next closed => cases closed
  · rw [read]
    rfl

theorem readsValues_succ (readsItems : ReadsItems style fuel)
    (readsFields : ReadsFields style fuel) : ReadsValues style (fuel + 1) := by
  intro given level room rest exact ends deep long
  cases given with
  | null => rfl
  | bool value => cases value <;> rfl
  | integer value =>
      obtain ⟨c, text, shape, digit⟩ := exists_toString_cons value
      have read := atom_integer value ends exact
      rw [writeAt_integer, shape, List.cons_append] at *
      rw [value_atom (ne_of_isDigit digit (by decide)) (ne_of_isDigit digit (by decide)), read]
  | real value => exact exact.elim
  | string text =>
      have read := atom_string style text rest
      rw [writeAt_string]
      rw [writeString_append] at read ⊢
      rw [value_atom (by decide) (by decide), read]
  | array items =>
      cases items with
      | nil =>
          cases room with
          | zero => exact absurd deep (by simp [depth])
          | succ room => rfl
      | cons item others =>
          cases room with
          | zero => exact absurd deep (by simp [depth])
          | succ room =>
              obtain ⟨c, text, shape, opens⟩ :=
                exists_writeAt_cons style (level + 1) exact.1
              rw [writeAt_array] at long ⊢
              simp only [List.cons_append, List.append_assoc, List.nil_append, List.length_cons,
                List.length_append] at long ⊢
              have read := readsItems item others (level + 1) level room rest exact.1 exact.2
                (by rw [depth] at deep; omega) (by omega)
              rw [shape, List.cons_append] at read ⊢
              refine value_array ?_ opens.more read
              rw [skipSpace_append (isSpace_newLine style (level + 1)),
                skipSpace_cons opens.visible]
  | object fields =>
      cases fields with
      | nil =>
          cases room with
          | zero => exact absurd deep (by simp [depth])
          | succ room => rfl
      | cons entry others =>
          cases room with
          | zero => exact absurd deep (by simp [depth])
          | succ room =>
              obtain ⟨name, field⟩ := entry
              rw [writeAt_object] at long ⊢
              simp only [List.cons_append, List.append_assoc, List.nil_append, List.length_cons,
                List.length_append] at long ⊢
              have read := readsFields name field others (level + 1) level room rest exact.2.1
                exact.2.2 (by rw [depth] at deep; omega) (by omega)
              rw [writeString_append] at read ⊢
              refine (value_object ?_ read).trans ?_
              · rw [skipSpace_append (isSpace_newLine style (level + 1)), skipSpace_cons rfl]
              · rw [Mapping.ofList_of_nodup exact.1]

theorem items_last {room : Nat} {text rest tail : List Char} {item : Json}
    (read : value fuel room text = .ok (item, rest)) (closes : skipSpace rest = ']' :: tail) :
    items (fuel + 1) room text = .ok ([item], tail) := by
  rw [items]
  simp only [bind, Except.bind, read, closes, pure, Except.pure]

theorem items_more {room : Nat} {text rest more tail : List Char} {item : Json} {others : List Json}
    (read : value fuel room text = .ok (item, rest)) (goes : skipSpace rest = ',' :: more)
    (readOthers : items fuel room (skipSpace more) = .ok (others, tail)) :
    items (fuel + 1) room text = .ok (item :: others, tail) := by
  rw [items]
  simp only [bind, Except.bind, read, goes, readOthers, pure, Except.pure]

theorem readsItems_succ (readsValues : ReadsValues style fuel)
    (readsItems : ReadsItems style fuel) : ReadsItems style (fuel + 1) := by
  intro item others level above room rest exact othersExact deep long
  rw [depthOfItems] at deep
  cases others with
  | nil =>
      refine items_last (readsValues item level room _ exact
        (endsNumber_newLine style above rfl rest) (by omega) (by omega)) ?_
      rw [writeItems_nil, List.nil_append, skipSpace_append (isSpace_newLine style above),
        skipSpace_cons rfl]
  | cons next more =>
      obtain ⟨c, text, shape, opens⟩ := exists_writeAt_cons style level othersExact.1
      rw [writeItems_cons] at long ⊢
      simp only [List.cons_append, List.append_assoc, List.length_cons,
        List.length_append] at long ⊢
      refine items_more (readsValues item level room _ exact (endsNumber_cons rfl _) (by omega)
        (by omega)) (skipSpace_cons rfl _) ?_
      have read := readsItems next more level above room rest othersExact.1 othersExact.2 (by omega)
        (by omega)
      rw [skipSpace_append (isSpace_newLine style level)]
      rw [shape, List.cons_append] at read ⊢
      rw [skipSpace_cons opens.visible, read]

theorem isSpace_colon (style : Style) :
    ∃ space, style.colon = ':' :: space ∧ ∀ c ∈ space, isSpace c = true := by
  unfold Style.colon
  split
  · exact ⟨[], rfl, nofun⟩
  · exact ⟨[' '], rfl, List.forall_mem_singleton.mpr (by decide)⟩

section

variable {room : Nat} {name : String} {field : Json} {text rest tail : List Char}

theorem fields_last (read : value fuel room (skipSpace text) = .ok (field, rest))
    (closes : skipSpace rest = '}' :: tail) :
    fields (fuel + 1) room (writeString style name ++ ':' :: text) =
      .ok ([(name, field)], tail) := by
  rw [writeString_append, fields, stringBody_written]
  simp only [bind, Except.bind, skipSpace_cons (show isSpace ':' = false from rfl), read, closes,
    pure, Except.pure, String.ofList_toList]

theorem fields_more {more : List Char} {others : List (String × Json)}
    (read : value fuel room (skipSpace text) = .ok (field, rest))
    (goes : skipSpace rest = ',' :: more)
    (readOthers : fields fuel room (skipSpace more) = .ok (others, tail)) :
    fields (fuel + 1) room (writeString style name ++ ':' :: text) =
      .ok ((name, field) :: others, tail) := by
  rw [writeString_append, fields, stringBody_written]
  simp only [bind, Except.bind, skipSpace_cons (show isSpace ':' = false from rfl), read, goes,
    readOthers, pure, Except.pure, String.ofList_toList]

end

theorem readsFields_succ (readsValues : ReadsValues style fuel)
    (readsFields : ReadsFields style fuel) : ReadsFields style (fuel + 1) := by
  intro name field others level above room rest exact othersExact deep long
  rw [depthOfFields] at deep
  obtain ⟨space, colon, blank⟩ := isSpace_colon style
  obtain ⟨c, text, shape, opens⟩ := exists_writeAt_cons style level exact
  have bound : 2 * (writeAt style level field).length ≤ fuel := by omega
  have first (tail : List Char) (ends : EndsNumber tail) :
      value fuel room (skipSpace (space ++ (writeAt style level field ++ tail))) =
        .ok (field, tail) := by
    have read := readsValues field level room tail exact ends (by omega) bound
    rw [shape, List.cons_append] at read ⊢
    rw [skipSpace_append blank, skipSpace_cons opens.visible, read]
  rw [colon, List.cons_append]
  cases others with
  | nil =>
      refine fields_last (first _ (endsNumber_newLine style above rfl rest)) ?_
      rw [writeFields_nil, List.nil_append, skipSpace_append (isSpace_newLine style above),
        skipSpace_cons rfl]
  | cons next more =>
      obtain ⟨other, value⟩ := next
      rw [writeFields_cons] at long ⊢
      simp only [List.cons_append, List.append_assoc, List.length_cons,
        List.length_append] at long ⊢
      refine fields_more (first _ (endsNumber_cons rfl _)) (skipSpace_cons rfl _) ?_
      have read := readsFields other value more level above room rest othersExact.1 othersExact.2
        (by omega) (by omega)
      rw [skipSpace_append (isSpace_newLine style level)]
      rw [writeString_append] at read ⊢
      rw [skipSpace_cons rfl, read]

/-- The induction is on the fuel, for values, items and fields together. -/
theorem reads (style : Style) (fuel : Nat) :
    ReadsValues style fuel ∧ ReadsItems style fuel ∧ ReadsFields style fuel := by
  induction fuel with
  | zero =>
      refine ⟨?_, fun _ _ _ _ _ _ _ _ _ long => absurd long (Nat.not_lt_zero _),
        fun _ _ _ _ _ _ _ _ _ _ long => absurd long (Nat.not_lt_zero _)⟩
      intro given level room rest exact ends deep long
      obtain ⟨c, text, shape, -⟩ := exists_writeAt_cons style level exact
      rw [shape, List.length_cons] at long
      omega
  | succ fuel ih =>
      obtain ⟨values, items, fields⟩ := ih
      exact ⟨readsValues_succ items fields, readsItems_succ values items,
        readsFields_succ values fields⟩

theorem whole_writeAt {given : Json} (style : Style) (exact : IsExact given) {room : Nat}
    (deep : depth given ≤ room) {space : List Char} (blank : ∀ c ∈ space, isSpace c = true) :
    whole room (writeAt style 0 given ++ space) = .ok given := by
  obtain ⟨c, text, shape, opens⟩ := exists_writeAt_cons style 0 exact
  have ends : EndsNumber space := by
    rintro c others rfl
    have space := blank c List.mem_cons_self
    simp only [isSpace, Bool.or_eq_true, decide_eq_true_eq] at space
    rcases space with ((rfl | rfl) | rfl) | rfl <;> rfl
  have read := (reads style (2 * (writeAt style 0 given ++ space).length + 2)).1 given 0 room space
    exact ends deep (by rw [List.length_append]; omega)
  have skipped : skipSpace (writeAt style 0 given ++ space) = writeAt style 0 given ++ space := by
    rw [shape, List.cons_append, skipSpace_cons opens.visible]
  have nothing : skipSpace space = [] := by
    have parts := skipSpace_append blank []
    rwa [List.append_nil] at parts
  rw [whole, skipped]
  simp only [bind, Except.bind, read, nothing, pure, Except.pure]

/-! The text of a value has no line end but the plain one. -/

theorem hexDigit_ne_return : ∀ value < 16, hexDigit value ≠ '\r' := by decide

theorem return_not_mem_unitEscape (unit : Nat) : '\r' ∉ unitEscape unit := by
  intro member
  rcases List.mem_cons.mp member with same | member
  · cases same
  · rcases List.mem_cons.mp member with same | member
    · cases same
    · have digit (value : Nat) : hexDigit (value % 16) ≠ '\r' :=
        hexDigit_ne_return _ (Nat.mod_lt _ (by decide))
      simp only [hexDigits, List.nil_append, List.cons_append, List.mem_cons, List.not_mem_nil,
        or_false] at member
      rcases member with same | same | same | same <;> exact digit _ same.symm

theorem return_not_mem_escapeChar (asciiOnly : Bool) (c : Char) :
    '\r' ∉ escapeChar asciiOnly c := by
  unfold escapeChar
  split_ifs with mark backslash lineEnd returned
  · decide
  · decide
  · decide
  · decide
  · decide
  · decide
  · decide
  · unfold escapeByNumber
    split
    · exact return_not_mem_unitEscape _
    · intro member
      rcases List.mem_append.mp member with member | member
      · exact return_not_mem_unitEscape _ member
      · exact return_not_mem_unitEscape _ member
  · exact fun member => returned (List.mem_singleton.mp member).symm

theorem return_not_mem_writeString (style : Style) (text : String) :
    '\r' ∉ writeString style text := by
  intro member
  have parts := writeString_append style text []
  rw [List.append_nil] at parts
  rw [parts] at member
  rcases List.mem_cons.mp member with same | member
  · cases same
  · rcases List.mem_append.mp member with member | member
    · obtain ⟨c, -, inside⟩ := List.mem_flatMap.mp member
      exact return_not_mem_escapeChar style.asciiOnly c inside
    · exact absurd (List.mem_singleton.mp member) (by decide)

theorem return_not_mem_newLine (style : Style) (level : Nat) : '\r' ∉ style.newLine level := by
  unfold Style.newLine
  split
  · exact List.not_mem_nil
  · intro member
    rcases List.mem_cons.mp member with same | member
    · cases same
    · exact absurd (List.eq_of_mem_replicate member) (by decide)

theorem return_not_mem_colon (style : Style) : '\r' ∉ style.colon := by
  unfold Style.colon
  split <;> decide

theorem return_not_mem_toString (value : Int) : '\r' ∉ (toString value).toList := by
  have digits (n : Nat) : '\r' ∉ Nat.toDigits 10 n := fun member =>
    absurd (isDigit_of_mem_toDigits member) (by decide)
  cases value with
  | ofNat n =>
      rw [Int.ofNat_eq_natCast, toList_toString_ofNat]
      exact digits n
  | negSucc n =>
      rw [toList_toString_negSucc]
      intro member
      rcases List.mem_cons.mp member with same | member
      · cases same
      · exact digits (n + 1) member

mutual

theorem return_not_mem_writeAt (style : Style) (level : Nat) :
    (given : Json) → IsExact given → '\r' ∉ writeAt style level given
  | .null, _ => by change _ ∉ "null".toList; decide
  | .bool true, _ => by change _ ∉ "true".toList; decide
  | .bool false, _ => by change _ ∉ "false".toList; decide
  | .integer value, _ => by
      rw [writeAt_integer]
      exact return_not_mem_toString value
  | .string text, _ => by
      rw [writeAt_string]
      exact return_not_mem_writeString style text
  | .array [], _ => by change _ ∉ ['[', ']']; decide
  | .array (item :: rest), exact => by
      simp only [writeAt_array, List.cons_append, List.append_assoc, List.mem_cons, List.mem_append,
        not_or]
      exact ⟨by decide, return_not_mem_newLine style _, return_not_mem_writeAt style _ item exact.1,
        return_not_mem_writeItems style _ rest exact.2, return_not_mem_newLine style _, by decide,
        List.not_mem_nil⟩
  | .object [], _ => by change _ ∉ ['{', '}']; decide
  | .object ((name, field) :: rest), exact => by
      simp only [writeAt_object, List.cons_append, List.append_assoc, List.mem_cons,
        List.mem_append, not_or]
      exact ⟨by decide, return_not_mem_newLine style _, return_not_mem_writeString style name,
        return_not_mem_colon style, return_not_mem_writeAt style _ field exact.2.1,
        return_not_mem_writeFields style _ rest exact.2.2, return_not_mem_newLine style _,
        by decide, List.not_mem_nil⟩

theorem return_not_mem_writeItems (style : Style) (level : Nat) :
    (items : List Json) → ItemsExact items → '\r' ∉ writeItems style level items
  | [], _ => List.not_mem_nil
  | item :: rest, exact => by
      simp only [writeItems_cons, List.cons_append, List.append_assoc, List.mem_cons,
        List.mem_append, not_or]
      exact ⟨by decide, return_not_mem_newLine style _, return_not_mem_writeAt style _ item exact.1,
        return_not_mem_writeItems style _ rest exact.2⟩

theorem return_not_mem_writeFields (style : Style) (level : Nat) :
    (fields : List (String × Json)) → FieldsExact fields → '\r' ∉ writeFields style level fields
  | [], _ => List.not_mem_nil
  | (name, field) :: rest, exact => by
      simp only [writeFields_cons, List.cons_append, List.append_assoc, List.mem_cons,
        List.mem_append, not_or]
      exact ⟨by decide, return_not_mem_newLine style _, return_not_mem_writeString style name,
        return_not_mem_colon style, return_not_mem_writeAt style _ field exact.1,
        return_not_mem_writeFields style _ rest exact.2⟩

end

/-! Whole texts. -/

theorem read_written {given : Json} (style : Style) (exact : IsExact given)
    (deep : depth given ≤ depthLimit) {space : String}
    (blank : ∀ c ∈ space.toList, isSpace c = true) :
    read (write style given ++ space) = .ok given := by
  obtain ⟨c, text, shape, opens⟩ := exists_writeAt_cons style 0 exact
  have chars : (write style given ++ space).toList = writeAt style 0 given ++ space.toList := by
    rw [String.toList_append, write, String.toList_ofList]
  rw [read, readDecoded, chars, whole_writeAt style exact deep blank, shape, List.cons_append]
  dsimp only
  rw [if_neg opens.noMark]
  rfl

theorem return_not_mem_written {given : Json} (style : Style) (exact : IsExact given)
    {space : String} (clean : '\r' ∉ space.toList) :
    '\r' ∉ (write style given ++ space).toList := by
  rw [String.toList_append, write, String.toList_ofList, List.mem_append, not_or]
  exact ⟨return_not_mem_writeAt style 0 given exact, clean⟩

end Json

end AppletPage
