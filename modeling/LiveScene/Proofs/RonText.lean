import LiveScene.Config.Ron
import LiveScene.Proofs.Quoting

/-! # Written RON read back

A record that was written is read field by field, a list item by item. Blanks may be skipped once
more without any difference, so each part is read for itself wherever the blanks around it end.
-/

namespace LiveScene

open Text

namespace Ron

/-! ## Blanks -/

theorem skip?_blank {c : Char} (hc : c = ' ' ∨ c = '\n') (text : List Char) :
    skip? (c :: text) = skip? text := by
  rw [skip?, skipTrivia?.eq_def]
  rcases hc with rfl | rfl <;> rfl

/-- Characters that are neither blanks nor the start of a comment. -/
def startsPart (c : Char) : Bool :=
  !(c == ' ' || c == '\n' || c == '\t' || c == '\r' || c == '/')

theorem startsPart_of_isNameChar {c : Char} (hc : isNameChar c = true) : startsPart c = true := by
  simp only [startsPart, Bool.not_eq_true', Bool.or_eq_false_iff, beq_eq_false_iff_ne]
  refine ⟨⟨⟨⟨?_, ?_⟩, ?_⟩, ?_⟩, ?_⟩ <;> rintro rfl <;> exact absurd hc (by decide)

theorem skip?_of_startsPart {c : Char} (hc : startsPart c = true) (text : List Char) :
    skip? (c :: text) = some (c :: text) := by
  simp only [startsPart, Bool.not_eq_true', Bool.or_eq_false_iff, beq_eq_false_iff_ne] at hc
  rw [skip?, skipTrivia?.eq_def]
  simp [hc]

/-- What is left when trivia are skipped starts with none. -/
theorem skipTrivia?_skipped {mode : Trivia} {text rest : List Char}
    (hskip : skipTrivia? mode text = some rest) : skip? rest = some rest := by
  -- A walk ends with the text, in or out of a line comment, or at a character of no trivia; all
  -- other steps fail or go on.
  fun_induction skipTrivia? mode text with
  | case1 =>
      cases hskip
      rfl
  | case6 c more hblank hslash =>
      cases hskip
      simp only [not_or] at hblank
      exact skip?_of_startsPart (by simp [startsPart, hblank, hslash]) more
  | case7 =>
      cases hskip
      rfl
  | _ => simp_all

theorem skip?_skipped {text rest : List Char} (hskip : skip? text = some rest) :
    skip? rest = some rest :=
  skipTrivia?_skipped hskip

theorem skip?_replicate (n : Nat) (text : List Char) :
    skip? (List.replicate n ' ' ++ text) = skip? text := by
  induction n with
  | zero => rfl
  | succ n ih => rw [List.replicate_succ, List.cons_append, skip?_blank (Or.inl rfl), ih]

theorem skip?_indented (n : Nat) {c : Char} (hc : startsPart c = true) (text : List Char) :
    skip? (List.replicate n ' ' ++ c :: text) = some (c :: text) := by
  rw [skip?_replicate, skip?_of_startsPart hc]

theorem comma?_comma {text rest : List Char} (hskip : skip? text = some rest) :
    comma? (',' :: text) = some (true, rest) := by
  rw [comma?, skip?_of_startsPart (by decide)]
  simp [hskip]

theorem close?_mark {mark : Char} (hmark : startsPart mark = true) (hcomma : mark ≠ ',')
    (rest : List Char) : close? mark (mark :: rest) = some rest := by
  have hplain : comma? (mark :: rest) = some (false, mark :: rest) := by
    rw [comma?, skip?_of_startsPart hmark]
    simp [hcomma]
  rw [close?, hplain]
  simp

theorem Scope.enter?_succ (depth : Nat) :
    ({ depth := depth + 1 } : Scope).enter? = some { depth } := rfl

namespace Reader

variable {α : Type}

/-! ## Lists -/

section

variable {read : Reader α} {scope inner : Scope}

theorem items_of_skip? {text rest : List Char} (hskip : skip? text = some rest) (fuel : Nat) :
    read.items fuel scope text = read.items fuel scope rest := by
  cases fuel with
  | zero => rfl
  | succ fuel => rw [items, items, hskip, skip?_skipped hskip]

theorem items_blank {c : Char} (hc : c = ' ' ∨ c = '\n') (fuel : Nat) (text : List Char) :
    read.items fuel scope (c :: text) = read.items fuel scope text := by
  cases fuel with
  | zero => rfl
  | succ fuel => rw [items, items, skip?_blank hc]

/-- An item, and the items after its comma. -/
theorem items_item {text item rest more : List Char} {a : α} (hscope : scope.enter? = some inner)
    (hitem : skip? text = some item) (hopen : item.head? ≠ some ']')
    (hread : read inner item = some (a, ',' :: rest)) (hrest : skip? rest = some more)
    (fuel : Nat) :
    read.items (fuel + 1) scope text =
      (read.items fuel scope rest).map fun items => (a :: items.1, items.2) := by
  rw [items, hitem]
  dsimp only [Option.bind_eq_bind, Option.bind_some]
  split
  next => exact absurd rfl hopen
  next =>
    simp only [hscope, hread, Option.bind_some, comma?_comma hrest]
    rw [Reader.map, items_of_skip? hrest]

theorem items_close {text rest : List Char} (hclose : skip? text = some (']' :: rest)) (fuel : Nat) :
    read.items (fuel + 1) scope text = some ([], rest) := by
  rw [items, hclose]
  rfl

end

/-! ## Records -/

/-- Names that stand for themselves. -/
def IsFieldName (name : String) : Prop :=
  name.toList.head?.any isNameStart = true ∧ name.toList.all isNameChar = true

instance (name : String) : Decidable (IsFieldName name) :=
  inferInstanceAs (Decidable (_ ∧ _))

theorem IsFieldName.forall_mem {name : String} (hname : IsFieldName name) :
    ∀ c ∈ name.toList, isNameChar c = true :=
  List.all_eq_true.mp hname.2

theorem IsFieldName.exists_cons {name : String} (hname : IsFieldName name) :
    ∃ c cs, name.toList = c :: cs ∧ isNameStart c = true := by
  cases hchars : name.toList with
  | nil =>
      have hstart := hname.1
      rw [hchars] at hstart
      cases hstart
  | cons c cs =>
      have hstart := hname.1
      rw [hchars] at hstart
      exact ⟨c, cs, rfl, hstart⟩

theorem IsFieldName.skip? {name : String} (hname : IsFieldName name) (text : List Char) :
    skip? (name.toList ++ text) = some (name.toList ++ text) := by
  obtain ⟨c, cs, hchars, hstart⟩ := hname.exists_cons
  have hc : startsPart c = true :=
    startsPart_of_isNameChar (hname.forall_mem c (by rw [hchars]; exact List.mem_cons_self))
  rw [hchars, List.cons_append]
  exact skip?_of_startsPart hc _

/-- A name ends at its colon. -/
theorem IsFieldName.name? {name : String} (hname : IsFieldName name) (text : List Char) :
    name? (name.toList ++ ':' :: text) = some (name, ':' :: text) := by
  obtain ⟨c, cs, hchars, hstart⟩ := hname.exists_cons
  have hspan : (name.toList ++ ':' :: text).span isNameChar = (name.toList, ':' :: text) :=
    span_append hname.forall_mem (by
      intro c hc
      cases hc
      decide)
  -- What follows the first letter of a name is a character of the name or the colon.
  have hsecond : ∀ d, isNameChar d = false → d ≠ ':' →
      ∀ more, name.toList ++ ':' :: text ≠ 'r' :: d :: more := by
    intro d hd hcolon more heq
    have hall := hname.forall_mem
    rw [hchars] at heq hall
    rcases cs with _ | ⟨e, cs⟩
    · cases heq
      exact hcolon rfl
    · cases heq
      rw [hall d (by simp)] at hd
      cases hd
  rw [Ron.name?]
  · rw [plainName?, hspan, hchars]
    simp [hstart, isRawNameChar, isNameChar, ← hchars]
  · exact fun more => hsecond '#' (by decide) (by decide) more
  · exact fun more => hsecond '"' (by decide) (by decide) more
  · intro heq
    have hlength := congrArg List.length heq
    rw [hchars] at hlength
    simp at hlength

section

variable {field? : String → Option (α → Reader α)} {scope inner : Scope} {seen : List String}
  {a a' : α}

theorem fields_of_skip? {text rest : List Char} (hskip : skip? text = some rest) (fuel : Nat) :
    fields field? fuel seen a scope text = fields field? fuel seen a scope rest := by
  cases fuel with
  | zero => rfl
  | succ fuel => rw [fields, fields, hskip, skip?_skipped hskip]

theorem fields_blank {c : Char} (hc : c = ' ' ∨ c = '\n') (fuel : Nat) (text : List Char) :
    fields field? fuel seen a scope (c :: text) = fields field? fuel seen a scope text := by
  cases fuel with
  | zero => rfl
  | succ fuel => rw [fields, fields, skip?_blank hc]

/-- A field, and the fields after its comma. -/
theorem fields_field {name : String} {read : α → Reader α} {text value rest more : List Char}
    (hscope : scope.enter? = some inner) (hname : IsFieldName name)
    (hfield : field? name = some read) (hseen : seen.contains name = false)
    (htext : skip? text = some (name.toList ++ ':' :: ' ' :: value))
    (hvalue : skip? value = some value) (hread : read a inner value = some (a', ',' :: rest))
    (hrest : skip? rest = some more) (fuel : Nat) :
    fields field? (fuel + 1) seen a scope text =
      fields field? fuel (name :: seen) a' scope rest := by
  have hcolon : skip? (':' :: ' ' :: value) = some (':' :: ' ' :: value) :=
    skip?_of_startsPart (by decide) _
  have hblank : skip? (' ' :: value) = some value := by rw [skip?_blank (Or.inl rfl), hvalue]
  have hread? := hname.name? (' ' :: value)
  rw [fields, htext]
  dsimp only [Option.bind_eq_bind, Option.bind_some]
  split
  next heq =>
    rw [heq] at hread?
    cases hread?
  next =>
    simp only [hread?, Option.bind_some, hcolon, hblank, hfield, hseen, Bool.false_eq_true, if_false,
      hscope, hread, comma?_comma hrest]
    exact (fields_of_skip? hrest fuel).symm

theorem fields_close {text rest : List Char} (hclose : skip? text = some (')' :: rest))
    (fuel : Nat) : fields field? (fuel + 1) seen a scope text = some (a, rest) := by
  rw [fields, hclose]
  rfl

/-- A field on a line of its own, and the lines after it. -/
def fieldLine (indent : Nat) (name : String) (value rest : List Char) : List Char :=
  List.replicate indent ' ' ++ (name.toList ++ ':' :: ' ' :: (value ++ ',' :: '\n' :: rest))

theorem skip?_fieldLine {name : String} (hname : IsFieldName name) (indent : Nat)
    (value rest : List Char) :
    skip? (fieldLine indent name value rest) =
      some (name.toList ++ ':' :: ' ' :: (value ++ ',' :: '\n' :: rest)) := by
  rw [fieldLine, skip?_replicate, hname.skip?]

theorem fields_line {name : String} {read : α → Reader α} {value rest more : List Char}
    (hscope : scope.enter? = some inner) (hname : IsFieldName name)
    (hfield : field? name = some read) (hseen : seen.contains name = false)
    (hstart : value.head?.any startsPart = true)
    (hread : read a inner (value ++ ',' :: '\n' :: rest) = some (a', ',' :: '\n' :: rest))
    (hrest : skip? rest = some more) (indent fuel : Nat) :
    fields field? (fuel + 1) seen a scope (fieldLine indent name value rest) =
      fields field? fuel (name :: seen) a' scope rest := by
  have hvalue : skip? (value ++ ',' :: '\n' :: rest) = some (value ++ ',' :: '\n' :: rest) := by
    cases value with
    | nil => cases hstart
    | cons c value => exact skip?_of_startsPart hstart _
  have hline : skip? ('\n' :: rest) = some more := by rw [skip?_blank (Or.inr rfl), hrest]
  rw [fields_field hscope hname hfield hseen (skip?_fieldLine hname indent value rest) hvalue hread
    hline, fields_blank (Or.inr rfl)]

/-- A record without its name. -/
theorem record_parens (hscope : scope.enter? = some inner) (title : String) (text : List Char) :
    record title field? a scope ('(' :: text) =
      fields field? (text.length + 1) [] a inner text := by
  have htitle : dropTitle? title ('(' :: text) = some ('(' :: text) := rfl
  rw [record, htitle]
  simp [skip?_of_startsPart (show startsPart '(' = true by decide), hscope]

end

/-! ## Values -/

theorem isIntegerChar_of_isDigit {c : Char} (hc : c.isDigit = true) : isIntegerChar c = true := by
  have hcode : 48 ≤ c.val ∧ c.val ≤ 57 := by simpa [Char.isDigit] using hc
  have hrange : '0' ≤ c ∧ c ≤ '9' := hcode
  simp [isIntegerChar, hexValue?, hrange]

/-- Digits are not followed by the letter of a base. -/
theorem splitBase_of_isDigit {digits : List Char} (hne : digits ≠ [])
    (hdigits : ∀ c ∈ digits, c.isDigit = true) (rest : List Char) :
    splitBase (digits ++ ',' :: rest) = (10, digits ++ ',' :: rest) := by
  have hletter : ∀ letter, letter.isDigit = false → letter ≠ ',' →
      ∀ c more, digits ++ ',' :: rest ≠ c :: letter :: more := by
    intro letter hletter hcomma c more heq
    rcases digits with _ | ⟨d, _ | ⟨e, digits⟩⟩
    · exact hne rfl
    · cases heq
      exact hcomma rfl
    · cases heq
      rw [hdigits letter (by simp)] at hletter
      cases hletter
  rw [splitBase]
  · exact fun more => hletter 'x' (by decide) (by decide) '0' more
  · exact fun more => hletter 'b' (by decide) (by decide) '0' more
  · exact fun more => hletter 'o' (by decide) (by decide) '0' more

theorem natural?_toDigits {bound n : Nat} (hn : n < bound) (rest : List Char) :
    natural? bound (Nat.toDigits 10 n ++ ',' :: rest) = some (n, ',' :: rest) := by
  have hdigits : ∀ c ∈ Nat.toDigits 10 n, c.isDigit = true := fun _ =>
    isDigit_of_mem_toDigits
  have hspan : (Nat.toDigits 10 n ++ ',' :: rest).span isIntegerChar =
      (Nat.toDigits 10 n, ',' :: rest) :=
    span_append (fun c hc => isIntegerChar_of_isDigit (hdigits c hc)) (by
      intro c hc
      cases hc
      decide)
  have hplain : (Nat.toDigits 10 n).filter (· ≠ '_') = Nat.toDigits 10 n := by
    refine List.filter_eq_self.mpr fun c hc => decide_eq_true ?_
    rintro rfl
    exact absurd (hdigits '_' hc) (by decide)
  have hvalue := valueIn?_toDigits n
  have hne : Nat.toDigits 10 n ≠ [] := Nat.toDigits_ne_nil
  rw [natural?, splitBase_of_isDigit hne hdigits]
  dsimp only
  rw [hspan]
  generalize Nat.toDigits 10 n = digits at hdigits hplain hvalue hne
  split
  next heq =>
    cases heq
    exact absurd rfl hne
  next heq =>
    cases heq
    exact absurd (hdigits '_' List.mem_cons_self) (by decide)
  next heq =>
    cases heq
    simp only [hplain, hvalue, Option.bind_eq_bind, Option.bind_some, if_pos hn]

theorem startsPart_head?_toDigits (n : Nat) :
    (Nat.toDigits 10 n).head?.any startsPart = true := by
  cases hdigits : Nat.toDigits 10 n with
  | nil => exact absurd hdigits Nat.toDigits_ne_nil
  | cons c cs =>
      have hc : c.isDigit = true := isDigit_of_mem_toDigits
        (hdigits ▸ List.mem_cons_self : c ∈ Nat.toDigits 10 n)
      exact startsPart_of_isNameChar (by simp [isNameChar, Char.isAlphanum, hc])

theorem uint64_toDigits (scope : Scope) (n : UInt64) (rest : List Char) :
    uint64 scope (Nat.toDigits 10 n.toNat ++ ',' :: rest) = some (n, ',' :: rest) := by
  rw [uint64, natural?_toDigits n.toNat_lt]
  simp

theorem bool_written (scope : Scope) (b : Bool) (rest : List Char) :
    bool scope ((if b then "true" else "false").toList ++ ',' :: rest) = some (b, ',' :: rest) := by
  cases b <;> rfl

/-- An option is written with what it holds in parentheses. -/
theorem option_some {read : Reader α} {scope inner : Scope} {text rest : List Char} {a : α}
    (hscope : scope.enter? = some inner) (htext : skip? text = some text)
    (hread : read inner text = some (a, ')' :: rest)) :
    read.option scope ("Some(".toList ++ text) = some (some a, rest) := by
  have hnone : word? "None" ("Some(".toList ++ text) = none := rfl
  have hsome : word? "Some" ("Some(".toList ++ text) = some ('(' :: text) := rfl
  have hopen : skip? ('(' :: text) = some ('(' :: text) := skip?_of_startsPart (by decide) text
  have hclose : close? ')' (')' :: rest) = some rest := close?_mark (by decide) (by decide) rest
  rw [option, hnone, hsome]
  simp [hopen, hscope, htext, hread, hclose]

theorem option_none (read : Reader α) (scope : Scope) (rest : List Char) :
    read.option scope ("None".toList ++ ',' :: rest) = some (none, ',' :: rest) := rfl

theorem map_of_read {β : Type} {read : Reader α} {scope : Scope} {text rest : List Char} {a : α}
    (hread : read scope text = some (a, rest)) (f : α → β) :
    read.map f scope text = some (f a, rest) := by
  rw [Reader.map, hread]
  rfl

/-- A document without attributes is one value. -/
theorem document?_of_read {read : Reader α} {text : String} {c : Char} {cs : List Char} {a : α}
    (hc : startsPart c = true) (hmark : c ≠ '#') (htext : text.toList = c :: cs)
    (hread : read {} (c :: cs) = some (a, [])) : read.document? text = some a := by
  have hattributes : ∀ fuel, attributes? (fuel + 1) {} (c :: cs) = some ({}, c :: cs) := by
    simp [attributes?, hmark]
  have hend : skip? [] = some [] := rfl
  rw [document?, htext, skip?_of_startsPart hc]
  simp [hattributes, hread, hend]

/-! ## Lists of strings -/

/-- A string on a line of its own. -/
def sourceLine (source : String) : List Char :=
  List.replicate 12 ' ' ++ ((quote source).toList ++ [',', '\n'])

theorem skip?_quote (s : String) (rest : List Char) :
    skip? ((quote s).toList ++ rest) = some ((quote s).toList ++ rest) := by
  rw [toList_quote, List.cons_append]
  exact skip?_of_startsPart (by decide) _

theorem str_quote (scope : Scope) (s : String) (rest : List Char) :
    str scope ((quote s).toList ++ rest) = some (s, rest) :=
  string?_quote s rest

theorem skip?_sourceLine (source : String) (rest : List Char) :
    skip? (sourceLine source ++ rest) = some ((quote source).toList ++ ',' :: '\n' :: rest) := by
  have htext : sourceLine source ++ rest =
      List.replicate 12 ' ' ++ ((quote source).toList ++ ',' :: '\n' :: rest) := by
    simp [sourceLine]
  rw [htext, skip?_replicate, skip?_quote]

theorem items_sourceLines (depth : Nat) (sources : List String) {text rest : List Char}
    (hclose : skip? text = some (']' :: rest)) (fuel : Nat) :
    str.items (sources.length + fuel + 1) { depth := depth + 1 }
        (sources.flatMap sourceLine ++ text) = some (sources, rest) := by
  induction sources with
  | nil => exact items_close hclose _
  | cons source sources ih =>
      obtain ⟨more, hmore⟩ : ∃ more, skip? (sources.flatMap sourceLine ++ text) = some more := by
        cases sources with
        | nil => exact ⟨_, hclose⟩
        | cons next sources =>
            rw [List.flatMap_cons, List.append_assoc]
            exact ⟨_, skip?_sourceLine next _⟩
      have hline : skip? ('\n' :: (sources.flatMap sourceLine ++ text)) = some more := by
        rw [skip?_blank (Or.inr rfl), hmore]
      have hopen : ((quote source).toList ++ ',' :: '\n' :: (sources.flatMap sourceLine ++ text)).head? ≠
          some ']' := by
        simp [toList_quote]
      have hfuel : (source :: sources).length + fuel + 1 = sources.length + fuel + 1 + 1 := by
        rw [List.length_cons]
        omega
      have hitem := items_item (Scope.enter?_succ depth) (skip?_sourceLine source _) hopen
        (str_quote _ source _) hline (sources.length + fuel + 1)
      rw [hfuel, List.flatMap_cons, List.append_assoc, hitem, items_blank (Or.inr rfl), ih]
      rfl

theorem list_bracket (read : Reader α) (depth : Nat) (text : List Char) :
    read.list { depth := depth + 1 } ('[' :: text) =
      read.items (text.length + 1) { depth } text := rfl

end Reader

end Ron

namespace LoaderConfig

variable (config : LoaderConfig)

theorem list_ronSources (depth : Nat) (rest : List Char) :
    Ron.Reader.str.list { depth := depth + 2 } (config.ronSources.toList ++ rest) =
      some (config.fallbackSources, rest) := by
  by_cases hnil : config.fallbackSources = []
  · have htext : config.ronSources = "[]" := by simp only [ronSources, hnil]
    rw [htext, hnil]
    exact (Ron.Reader.list_bracket _ _ _).trans
      (Ron.Reader.items_close (Ron.skip?_of_startsPart (by decide) rest) _)
  · have htext : config.ronSources.toList ++ rest =
        '[' :: '\n' :: (config.fallbackSources.flatMap Ron.Reader.sourceLine ++
          (List.replicate 8 ' ' ++ ']' :: rest)) := by
      unfold ronSources
      split
      next heq => exact absurd heq hnil
      next =>
        simp only [String.toList_append, String.toList_join, List.flatMap_map, List.append_assoc]
        rfl
    have hclose := Ron.skip?_indented 8 (show Ron.startsPart ']' = true by decide) rest
    have hline : ∀ source, Ron.Reader.sourceLine source ≠ [] := fun _ => List.cons_ne_nil _ _
    have hlength := length_le_length_flatMap hline config.fallbackSources
    rw [htext, Ron.Reader.list_bracket, Ron.Reader.items_blank (Or.inr rfl)]
    obtain ⟨fuel, hfuel⟩ : ∃ fuel, ('\n' :: (config.fallbackSources.flatMap Ron.Reader.sourceLine ++
        (List.replicate 8 ' ' ++ ']' :: rest))).length =
          config.fallbackSources.length + fuel := by
      refine Nat.exists_eq_add_of_le ?_
      simp only [List.length_cons, List.length_append]
      omega
    rw [hfuel]
    exact Ron.Reader.items_sourceLines depth config.fallbackSources hclose fuel

theorem option_ronUrl (depth : Nat) (rest : List Char) :
    Ron.Reader.str.option { depth := depth + 1 } (config.ronUrl.toList ++ ',' :: rest) =
      some (config.moduleUrl, ',' :: rest) := by
  unfold ronUrl
  cases config.moduleUrl with
  | none => exact Ron.Reader.option_none _ _ rest
  | some url =>
      have htext : ("Some(" ++ Ron.quote url ++ ")").toList ++ ',' :: rest =
          "Some(".toList ++ ((Ron.quote url).toList ++ ')' :: ',' :: rest) := by
        simp
      dsimp only
      rw [htext]
      exact Ron.Reader.option_some rfl (Ron.Reader.skip?_quote url _) (Ron.Reader.str_quote _ url _)

section

open Ron.Reader

variable (start : LoaderConfig) {seen : List String} {rest more : List Char}
  (hrest : Ron.skip? rest = some more) (depth fuel : Nat)

include hrest

theorem fields_moduleUrl (hseen : seen.contains "module_url" = false) :
    fields ronField? (fuel + 1) seen start { depth := depth + 4 }
        (fieldLine 8 "module_url" config.ronUrl.toList rest) =
      fields ronField? fuel ("module_url" :: seen) { start with moduleUrl := config.moduleUrl }
        { depth := depth + 4 } rest := by
  have hfield : ronField? "module_url" = some fun start =>
      (Ron.Reader.option .str).map fun url => { start with moduleUrl := url } := rfl
  have hstart : config.ronUrl.toList.head?.any Ron.startsPart = true := by
    unfold ronUrl
    cases config.moduleUrl <;> simp [Ron.startsPart]
  exact fields_line (Ron.Scope.enter?_succ _) (by decide) hfield hseen hstart
    (map_of_read (config.option_ronUrl _ _) _) hrest 8 fuel

theorem fields_fallbackSources (hseen : seen.contains "fallback_sources" = false) :
    fields ronField? (fuel + 1) seen start { depth := depth + 4 }
        (fieldLine 8 "fallback_sources" config.ronSources.toList rest) =
      fields ronField? fuel ("fallback_sources" :: seen)
        { start with fallbackSources := config.fallbackSources } { depth := depth + 4 } rest := by
  have hfield : ronField? "fallback_sources" = some fun start =>
      (Ron.Reader.list .str).map fun sources => { start with fallbackSources := sources } := rfl
  have hstart : config.ronSources.toList.head?.any Ron.startsPart = true := by
    unfold ronSources
    split <;> simp [Ron.startsPart]
  exact fields_line (Ron.Scope.enter?_succ _) (by decide) hfield hseen hstart
    (map_of_read (config.list_ronSources _ _) _) hrest 8 fuel

theorem fields_sourceTimeout (hseen : seen.contains "source_timeout_ms" = false) :
    fields ronField? (fuel + 1) seen start { depth := depth + 4 }
        (fieldLine 8 "source_timeout_ms" (Nat.toDigits 10 config.sourceTimeout.toNat) rest) =
      fields ronField? fuel ("source_timeout_ms" :: seen)
        { start with sourceTimeout := config.sourceTimeout } { depth := depth + 4 } rest := by
  have hfield : ronField? "source_timeout_ms" = some fun start =>
      uint64.map fun timeout => { start with sourceTimeout := timeout } := rfl
  exact fields_line (Ron.Scope.enter?_succ _) (by decide) hfield hseen
    (startsPart_head?_toDigits _) (map_of_read (uint64_toDigits _ _ _) _) hrest 8 fuel

end

/-- The text of a configuration of the loader, and what follows it. -/
def ronText (rest : List Char) : List Char :=
  '(' :: '\n' :: Ron.Reader.fieldLine 8 "module_url" config.ronUrl.toList
    (Ron.Reader.fieldLine 8 "fallback_sources" config.ronSources.toList
      (Ron.Reader.fieldLine 8 "source_timeout_ms" (Nat.toDigits 10 config.sourceTimeout.toNat)
        (List.replicate 4 ' ' ++ ')' :: rest)))

theorem ronText_append (rest : List Char) : config.ronText [] ++ rest = config.ronText rest := by
  simp [ronText, Ron.Reader.fieldLine]

theorem ofRon_ronText (depth : Nat) (rest : List Char) :
    ofRon { depth := depth + 5 } (config.ronText rest) = some (config, rest) := by
  have hclose := Ron.skip?_indented 4 (show Ron.startsPart ')' = true by decide) rest
  have hlength : 4 ≤ (config.ronText rest).length := by
    simp [ronText, Ron.Reader.fieldLine]
  obtain ⟨fuel, hfuel⟩ := Nat.exists_eq_add_of_le' hlength
  rw [ofRon]
  unfold ronText at hfuel ⊢
  rw [Ron.Reader.record_parens (Ron.Scope.enter?_succ _), ← List.length_cons, hfuel,
    Ron.Reader.fields_blank (Or.inr rfl),
    config.fields_moduleUrl _ (Ron.Reader.skip?_fieldLine (by decide) _ _ _) _ _ rfl,
    config.fields_fallbackSources _ (Ron.Reader.skip?_fieldLine (by decide) _ _ _) _ _ (by decide),
    config.fields_sourceTimeout _ hclose _ _ (by decide), Ron.Reader.fields_close hclose]

end LoaderConfig

namespace RenderConfig

variable (config : RenderConfig)

/-- The text of a configuration of rendering, and what follows it. -/
def ronText (rest : List Char) : List Char :=
  '(' :: '\n' :: Ron.Reader.fieldLine 8 "autostart"
    (if config.autostart then "true" else "false").toList (List.replicate 4 ' ' ++ ')' :: rest)

theorem ronText_append (rest : List Char) : config.ronText [] ++ rest = config.ronText rest := by
  simp [ronText, Ron.Reader.fieldLine]

theorem ofRon_ronText (depth : Nat) (rest : List Char) :
    ofRon { depth := depth + 2 } (config.ronText rest) = some (config, rest) := by
  have hclose := Ron.skip?_indented 4 (show Ron.startsPart ')' = true by decide) rest
  have hfield : ronField? "autostart" = some fun start =>
      Ron.Reader.bool.map fun autostart => { start with autostart } := rfl
  have hstart : (if config.autostart then "true" else "false").toList.head?.any Ron.startsPart =
      true := by
    cases config.autostart <;> decide
  have hlength : 2 ≤ (config.ronText rest).length := by
    simp [ronText, Ron.Reader.fieldLine]
  obtain ⟨fuel, hfuel⟩ := Nat.exists_eq_add_of_le' hlength
  rw [ofRon]
  unfold ronText at hfuel ⊢
  rw [Ron.Reader.record_parens (Ron.Scope.enter?_succ _), ← List.length_cons, hfuel,
    Ron.Reader.fields_blank (Or.inr rfl),
    Ron.Reader.fields_line (Ron.Scope.enter?_succ _) (by decide) hfield rfl hstart
      (Ron.Reader.map_of_read (Ron.Reader.bool_written _ _ _) _) hclose,
    Ron.Reader.fields_close hclose]

end RenderConfig

namespace Config

variable (config : Config)

/-- The lines of a configuration after its opening parenthesis. -/
def ronLines : List Char :=
  '\n' :: Ron.Reader.fieldLine 4 "loader" (config.loader.ronText [])
    (Ron.Reader.fieldLine 4 "render" (config.render.ronText []) [')'])

theorem toList_toRonText : config.toRonText.toList = '(' :: config.ronLines := by
  unfold toRonText ronLines LoaderConfig.ronText RenderConfig.ronText Ron.Reader.fieldLine
  simp

section

open Ron.Reader

variable (start : Config) {seen : List String} {rest more : List Char}
  (hrest : Ron.skip? rest = some more) (depth fuel : Nat)

include hrest

theorem fields_loader (hseen : seen.contains "loader" = false) :
    fields ronField? (fuel + 1) seen start { depth := depth + 6 }
        (fieldLine 4 "loader" (config.loader.ronText []) rest) =
      fields ronField? fuel ("loader" :: seen) { start with loader := config.loader }
        { depth := depth + 6 } rest := by
  have hfield : ronField? "loader" = some fun start =>
      LoaderConfig.ofRon.map fun loader => { start with loader } := rfl
  have hread : LoaderConfig.ofRon { depth := depth + 5 }
      (config.loader.ronText [] ++ ',' :: '\n' :: rest) =
        some (config.loader, ',' :: '\n' :: rest) := by
    rw [config.loader.ronText_append, config.loader.ofRon_ronText]
  have hstart : (config.loader.ronText []).head?.any Ron.startsPart = true :=
    show Ron.startsPart '(' = true by decide
  exact fields_line (Ron.Scope.enter?_succ _) (by decide) hfield hseen hstart
    (map_of_read hread _) hrest 4 fuel

theorem fields_render (hseen : seen.contains "render" = false) :
    fields ronField? (fuel + 1) seen start { depth := depth + 3 }
        (fieldLine 4 "render" (config.render.ronText []) rest) =
      fields ronField? fuel ("render" :: seen) { start with render := config.render }
        { depth := depth + 3 } rest := by
  have hfield : ronField? "render" = some fun start =>
      RenderConfig.ofRon.map fun render => { start with render } := rfl
  have hread : RenderConfig.ofRon { depth := depth + 2 }
      (config.render.ronText [] ++ ',' :: '\n' :: rest) =
        some (config.render, ',' :: '\n' :: rest) := by
    rw [config.render.ronText_append, config.render.ofRon_ronText]
  have hstart : (config.render.ronText []).head?.any Ron.startsPart = true :=
    show Ron.startsPart '(' = true by decide
  exact fields_line (Ron.Scope.enter?_succ _) (by decide) hfield hseen hstart
    (map_of_read hread _) hrest 4 fuel

end

theorem record_ronLines :
    Ron.Reader.record "SyncConfig" ronField? {} { depth := 128 } ('(' :: config.ronLines) =
      some (config, []) := by
  have hclose : Ron.skip? [')'] = some [')'] := rfl
  have hlength : 3 ≤ config.ronLines.length + 1 := by
    simp [ronLines, Ron.Reader.fieldLine]
  obtain ⟨fuel, hfuel⟩ := Nat.exists_eq_add_of_le' hlength
  -- Both fields are read at depth 127, of which the first uses up more levels than the second.
  rw [Ron.Reader.record_parens (Ron.Scope.enter?_succ 127), hfuel, ronLines,
    Ron.Reader.fields_blank (Or.inr rfl),
    config.fields_loader _ (Ron.Reader.skip?_fieldLine (by decide) _ _ _) 121 _ rfl,
    config.fields_render _ hclose 124 _ (by decide), Ron.Reader.fields_close hclose]

/-- What is written is read back. -/
theorem ofRonText?_toRonText : ofRonText? config.toRonText = some config :=
  Ron.Reader.document?_of_read (by decide) (by decide) config.toList_toRonText
    config.record_ronLines

end Config

end LiveScene
