import Mathlib.Data.List.Nodup
import Mathlib.Tactic.SplitIfs
import FolderGrants.Json.Decoder
import FolderGrants.Json.Printer

/-!
# Printed values are read back

A reader takes off a text just the characters that a value was printed as, whatever
follows them.  For a string this is so since an escape is read as the character that it
stands for, and no other character is read as the closing quote.  For arrays and objects
it goes item by item and member by member; what has to be known of an item is that it does
not begin with the bracket that would end the array.  Four times the characters that are
left are always fuel enough for what comes next.

* `readString_escaped_append` — strings;
* `readItems_itemsChars`, `readFields_membersChars` — what is left of an array or an object;
* `Form.takes_plain`, `Form.Takes.nullable`, `Form.takes_list`, `Form.Shown.takes_declared` —
  forms;
* `Decoder.ofText_print` — texts from end to end.
-/

namespace FolderGrants

namespace Json

/-! ### Strings -/

section Strings

variable {done rest : List Char}

/-- A hexadecimal digit is read as the number that it stands for. -/
theorem hexValue?_digitChar {n : Nat} (h : n < 16) : hexValue? (Nat.digitChar n) = some n :=
  (by decide : ∀ n < 16, hexValue? (Nat.digitChar n) = some n) n h

/-- A control character is told by its number. -/
theorem unit?_control {n : Nat} (h : n < 0x20) :
    unit? '0' '0' (Nat.digitChar (n / 16)) (Nat.digitChar (n % 16)) = some n := by
  have hzero : hexValue? '0' = some 0 := by decide
  have hhigh : hexValue? (Nat.digitChar (n / 16)) = some (n / 16) := hexValue?_digitChar (by omega)
  have hlow : hexValue? (Nat.digitChar (n % 16)) = some (n % 16) := hexValue?_digitChar (by omega)
  simp only [unit?, hzero, hhigh, hlow, bind, Option.bind, pure, Option.some.injEq]
  omega

/-- An escape of one letter is read as the character that it stands for. -/
theorem readString_escaped {c d : Char} (hc : c ≠ 'u') (h : escaped? c = some d) :
    readString done ('\\' :: c :: rest) = readString (d :: done) rest := by
  rw [readString.eq_def]
  simp [hc, h]

/-- An escape by number is read as the character of that number. -/
theorem readString_unit (done rest : List Char) {a b c d : Char} {n : Nat}
    (h : unit? a b c d = some n) (hlow : isLowHalf n = false)
    (hhigh : isHighHalf n = false) :
    readString done ('\\' :: 'u' :: a :: b :: c :: d :: rest) =
      readString (Char.ofNat n :: done) rest := by
  rw [readString.eq_def]
  simp [h, hlow, hhigh]

/-- A character that needs no escape is read as itself. -/
theorem readString_plain {c : Char} (hquote : c ≠ '"') (hslash : c ≠ '\\')
    (hcontrol : ¬ c.toNat < 0x20) :
    readString done (c :: rest) = readString (c :: done) rest := by
  rw [readString]
  · rw [if_neg hcontrol]
  · exact hquote
  · exact fun _ _ _ _ _ h => absurd h hslash
  · exact fun _ h => absurd h hslash
  · exact fun _ _ h => absurd h hslash

/-- What stands for a character is read as that character. -/
theorem readString_escapeChar (c : Char) (done rest : List Char) :
    readString done (escapeChar c ++ rest) = readString (c :: done) rest := by
  have hescaped : ∀ e d : Char, e ≠ 'u' → escaped? e = some d → c = d →
      readString done (['\\', e] ++ rest) = readString (c :: done) rest := by
    rintro e d he hd rfl
    exact readString_escaped he hd
  unfold escapeChar
  split_ifs with hquote hslash hline hreturn htab hback hfeed hcontrol
  · exact hescaped '"' '"' (by decide) (by decide) hquote
  · exact hescaped '\\' '\\' (by decide) (by decide) hslash
  · exact hescaped 'n' '\n' (by decide) (by decide) hline
  · exact hescaped 'r' '\r' (by decide) (by decide) hreturn
  · exact hescaped 't' '\t' (by decide) (by decide) htab
  · exact hescaped 'b' '\x08' (by decide) (by decide) hback
  · exact hescaped 'f' '\x0c' (by decide) (by decide) hfeed
  · have hlow : isLowHalf c.toNat = false := by simp [isLowHalf]; omega
    have hhigh : isHighHalf c.toNat = false := by simp [isHighHalf]; omega
    have hread := readString_unit done rest (unit?_control hcontrol) hlow hhigh
    rw [Char.ofNat_toNat] at hread
    exact hread
  · exact readString_plain hquote hslash hcontrol

/-- A string is read as far as its closing quote. -/
theorem readString_escaped_append (cs : List Char) (done rest : List Char) :
    readString done (cs.flatMap escapeChar ++ '"' :: rest) =
      .ok (String.ofList (done.reverse ++ cs), rest) := by
  induction cs generalizing done with
  | nil => rw [List.flatMap_nil, List.nil_append, readString, List.append_nil]
  | cons c cs ih =>
      rw [List.flatMap_cons, List.append_assoc, readString_escapeChar, ih, List.reverse_cons,
        List.append_assoc, List.singleton_append]

end Strings

/-! ### Printed characters -/

/-- A value on one line. -/
def chars (j : Json) : List Char := j.print.toList

/-- A string after its opening quote. -/
def stringChars (s : String) : List Char := s.toList.flatMap escapeChar ++ ['"']

/-- What stands before an item or a member. -/
def separator (first : Bool) : List Char := if first then [] else [',']

/-- The items of an array, from one on. -/
def itemsChars : (first : Bool) → List Json → List Char
  | _, [] => []
  | first, j :: rest => separator first ++ (j.chars ++ itemsChars false rest)

/-- The members of an object, from one on. -/
def membersChars : (first : Bool) → List (String × Json) → List Char
  | _, [] => []
  | first, m :: rest => separator first ++
      ('"' :: (stringChars m.1 ++ ':' :: (m.2.chars ++ membersChars false rest)))

/-- A string is printed between quotes. -/
theorem chars_str (s : String) : (str s).chars = '"' :: stringChars s := by
  simp [chars, print, printString, stringChars]

/-- The printed items of an array, character by character. -/
theorem toList_printItems (l : List Json) : (printItems l).toList = itemsChars true l := by
  induction l with
  | nil => rfl
  | cons j rest ih =>
      cases rest with
      | nil => simp [printItems, itemsChars, separator, chars]
      | cons i rest => simp [printItems, itemsChars, separator, chars, ih]

/-- The printed members of an object, character by character. -/
theorem toList_printMembers (ms : List (String × Json)) :
    (printMembers ms).toList = membersChars true ms := by
  induction ms with
  | nil => rfl
  | cons m rest ih =>
      cases rest with
      | nil => simp [printMembers, membersChars, separator, chars, printString, stringChars]
      | cons i rest =>
          simp [printMembers, membersChars, separator, chars, printString, stringChars, ih]

/-- An array is printed between brackets. -/
theorem chars_arr (l : List Json) : (arr l).chars = '[' :: (itemsChars true l ++ [']']) := by
  simp [chars, print, toList_printItems]

/-- An object is printed between braces. -/
theorem chars_obj (ms : List (String × Json)) :
    (obj ms).chars = '\x7b' :: (membersChars true ms ++ ['\x7d']) := by
  simp [chars, print, toList_printMembers]

/-! ### Where a value begins -/

/-- A character that a printed text, word, array or object begins with. -/
def Opens (c : Char) : Prop := c ∈ ['"', 't', 'f', '[', '\x7b']

/-- None of these characters is a space. -/
theorem Opens.not_space {c : Char} (h : Opens c) : isSpace c = false := by
  simp only [Opens, List.mem_cons, List.not_mem_nil, or_false] at h
  rcases h with rfl | rfl | rfl | rfl | rfl <;> rfl

/-- None of them is a closing bracket. -/
theorem Opens.ne_bracket {c : Char} (h : Opens c) : c ≠ ']' := by
  rintro rfl
  simp [Opens] at h

/-- None of them begins `null`. -/
theorem Opens.ne_n {c : Char} (h : Opens c) : c ≠ 'n' := by
  rintro rfl
  simp [Opens] at h

theorem skipSpace_cons {c : Char} (h : isSpace c = false) (rest : List Char) :
    skipSpace (c :: rest) = c :: rest := by
  simp [skipSpace, h]

theorem nextItem_bracket (first : Bool) (rest : List Char) :
    nextItem first (']' :: rest) = .ok (false, rest) := rfl

/-- An item follows at once if it is the first, and otherwise after a comma. -/
theorem nextItem_separator (first : Bool) {c : Char} (h : Opens c) (rest : List Char) :
    nextItem first (separator first ++ c :: rest) = .ok (true, c :: rest) := by
  have hspace : skipSpace (c :: rest) = c :: rest := skipSpace_cons h.not_space rest
  cases first with
  | true => simp [nextItem, separator, hspace, h.ne_bracket]
  | false =>
      have hcomma : skipSpace (',' :: c :: rest) = ',' :: c :: rest := skipSpace_cons rfl _
      simp [nextItem, separator, hcomma, hspace, h.ne_bracket]

theorem nextMember_bracket (first : Bool) (rest : List Char) :
    nextMember first ('\x7d' :: rest) = .ok (false, rest) := rfl

/-- A member follows at once if it is the first, and otherwise after a comma. -/
theorem nextMember_separator (first : Bool) (rest : List Char) :
    nextMember first (separator first ++ '"' :: rest) = .ok (true, rest) := by
  cases first <;> rfl

theorem passColon_cons (rest : List Char) : passColon (':' :: rest) = .ok rest := rfl

/-- A printed string is read back, whatever follows it. -/
theorem readString_stringChars (s : String) (rest : List Char) :
    readString [] (stringChars s ++ rest) = .ok (s, rest) := by
  rw [stringChars, List.append_assoc, List.singleton_append, readString_escaped_append]
  simp

/-- A reader goes one level down as long as there is room. -/
theorem enter_of_lt {room : Nat} (h : 1 < room) (rest : List Char) : enter room rest = .ok () := by
  rw [enter, if_neg (Nat.not_le.2 h)]

/-! ### Forms -/

/-- A reader that wants a value of the form takes the value off the text that it is printed
at the front of.  `steps` is the fuel that it needs besides four times the length. -/
structure Form.Takes (steps : Nat) (form : Form) (j : Json) : Prop where
  begins : ∃ c more, j.chars = c :: more ∧ Opens c
  reads {fuel room : Nat} {rest : List Char} :
    j.depth < room → 4 * (j.chars ++ rest).length + steps ≤ fuel →
      form.read fuel room (j.chars ++ rest) = .ok (j, rest)

namespace Form

variable {form : Form} {j : Json} {steps : Nat}

theorem Takes.mono {more : Nat} (h : form.Takes steps j) (hle : steps ≤ more) :
    form.Takes more j where
  begins := h.begins
  reads hdepth hfuel := h.reads hdepth (Nat.le_trans (Nat.add_le_add_left hle _) hfuel)

/-- Where there is fuel for a reader, there is some for its first step. -/
theorem exists_succ_of_fuel {n fuel : Nat} (h : n + 3 ≤ fuel) : ∃ k, fuel = k + 1 ∧ n + 2 ≤ k :=
  ⟨fuel - 1, by omega, by omega⟩

/-- A text that begins neither an array nor an object is read as a value without parts. -/
theorem readPlain_of_scalar {α : Type} {fits : Json → Except Misfit α} {a : α} {c : Char}
    {cs rest : List Char} (harray : c ≠ '[') (hobject : c ≠ '\x7b')
    (hscalar : readScalar (c :: cs) = .ok (j, rest)) (h : fits j = .ok a) :
    readPlain fits (c :: cs) = .ok (a, rest) := by
  rw [readPlain]
  · rw [hscalar]
    simp only [bind, Except.bind, judged, h, Except.mapError, pure, Except.pure]
  · exact fun _ h => harray (List.cons.inj h).1
  · exact fun _ h => hobject (List.cons.inj h).1

/-- A value without parts is taken if it is read whatever follows it. -/
theorem takes_plain {fits : Json → Except Misfit Unit} {c : Char} {more : List Char}
    (hchars : j.chars = c :: more) (hopens : Opens c) (harray : c ≠ '[') (hobject : c ≠ '\x7b')
    (hscalar : ∀ rest, readScalar (j.chars ++ rest) = .ok (j, rest)) (h : fits j = .ok ()) :
    (Form.plain fits).Takes 3 j where
  begins := ⟨c, more, hchars, hopens⟩
  reads {fuel room rest} _ hfuel := by
    obtain ⟨k, rfl, -⟩ := exists_succ_of_fuel hfuel
    have hread : readScalar (c :: (more ++ rest)) = .ok (j, rest) := by
      rw [← List.cons_append, ← hchars, hscalar]
    rw [hchars, List.cons_append, read, skipSpace_cons hopens.not_space]
    refine readPlain_of_scalar harray hobject hread ?_
    rw [h]
    rfl

/-- A text is taken if it fits. -/
theorem takes_text {fits : Json → Except Misfit Unit} {s : String} (h : fits (str s) = .ok ()) :
    (plain fits).Takes 3 (str s) := by
  refine takes_plain (chars_str s) (by simp [Opens]) (by decide) (by decide) (fun rest => ?_) h
  rw [chars_str, List.cons_append, readScalar, if_pos rfl, readString_stringChars]
  rfl

/-- A truth value is taken if it fits. -/
theorem takes_bool {fits : Json → Except Misfit Unit} {b : Bool} (h : fits (.bool b) = .ok ()) :
    (plain fits).Takes 3 (.bool b) := by
  cases b with
  | true =>
      have hchars : (Json.bool true).chars = ['t', 'r', 'u', 'e'] := rfl
      refine takes_plain hchars (by simp [Opens]) (by decide) (by decide) (fun _ => ?_) h
      rw [hchars]
      rfl
  | false =>
      have hchars : (Json.bool false).chars = ['f', 'a', 'l', 's', 'e'] := rfl
      refine takes_plain hchars (by simp [Opens]) (by decide) (by decide) (fun _ => ?_) h
      rw [hchars]
      rfl

/-- A value that is printed is not taken for `null`. -/
theorem Takes.nullable (h : form.Takes 3 j) : (nullable form).Takes 4 j where
  begins := h.begins
  reads {fuel room rest} hdepth hfuel := by
    obtain ⟨k, rfl, hk⟩ := exists_succ_of_fuel (Nat.le_of_succ_le hfuel)
    obtain ⟨c, more, hchars, hopens⟩ := h.begins
    have hspace : skipSpace (j.chars ++ rest) = j.chars ++ rest := by
      rw [hchars, List.cons_append, skipSpace_cons hopens.not_space]
    have hnull : (j.chars ++ rest).head? ≠ some 'n' := by
      rw [hchars, List.cons_append, List.head?_cons]
      exact fun hn => hopens.ne_n (Option.some.inj hn)
    rw [read, hspace, if_neg hnull]
    exact h.reads hdepth (Nat.le_of_succ_le_succ hfuel)

/-- What is taken has at least one character. -/
theorem Takes.length_pos (h : form.Takes steps j) : 0 < j.chars.length := by
  obtain ⟨c, more, hchars, -⟩ := h.begins
  rw [hchars]
  exact Nat.succ_pos _

/-! ### Arrays -/

/-- An item that is taken is found behind its separator. -/
theorem Takes.nextItem_eq (h : form.Takes steps j) (first : Bool) (rest : List Char) :
    nextItem first (separator first ++ (j.chars ++ rest)) = .ok (true, j.chars ++ rest) := by
  obtain ⟨c, more, hchars, hopens⟩ := h.begins
  rw [hchars, List.cons_append, nextItem_separator first hopens]

/-- What is left of an array, if each of its items is taken.  An item needs fuel for one
call more than its characters give; behind another item its comma pays for that. -/
theorem readItems_itemsChars {l : List Json} (hitems : ∀ j ∈ l, form.Takes 4 j) (first : Bool)
    {fuel room : Nat} {rest : List Char} (hdepth : depthItems l < room)
    (hfuel : 4 * (itemsChars first l ++ ']' :: rest).length + 5 ≤
      fuel + 4 * (separator first).length) :
    readItems fuel room form first (itemsChars first l ++ ']' :: rest) = .ok (l, rest) := by
  induction l generalizing first fuel with
  | nil =>
      have hle : (separator first).length ≤ 1 := by cases first <;> decide
      rw [itemsChars, List.nil_append, List.length_cons] at hfuel
      obtain ⟨k, rfl⟩ : ∃ k, fuel = k + 1 := ⟨fuel - 1, by omega⟩
      rw [itemsChars, List.nil_append, readItems, nextItem_bracket]
      rfl
  | cons j l ih =>
      obtain ⟨hj, hl⟩ := List.forall_mem_cons.1 hitems
      have hpos := hj.length_pos
      rw [depthItems, Nat.max_lt] at hdepth
      simp only [itemsChars, List.append_assoc, List.length_append] at hfuel
      obtain ⟨k, rfl⟩ : ∃ k, fuel = k + 1 := ⟨fuel - 1, by omega⟩
      have hitem : form.read k room (j.chars ++ (itemsChars false l ++ ']' :: rest)) =
          .ok (j, itemsChars false l ++ ']' :: rest) :=
        hj.reads hdepth.1 (by simp only [List.length_append]; omega)
      have hmore : readItems k room form false (itemsChars false l ++ ']' :: rest) =
          .ok (l, rest) :=
        ih hl false hdepth.2 (by simp only [List.length_append]; omega)
      rw [itemsChars, List.append_assoc, List.append_assoc, readItems, hj.nextItem_eq]
      simp only [bind, Except.bind, hitem, hmore, pure, Except.pure]

/-- An array is taken if its items are. -/
theorem takes_list {l : List Json} (hitems : ∀ j ∈ l, form.Takes 4 j) :
    (list form).Takes 3 (arr l) where
  begins := ⟨'[', _, chars_arr l, by simp [Opens]⟩
  reads {fuel room rest} hdepth hfuel := by
    obtain ⟨k, rfl, hk⟩ := exists_succ_of_fuel hfuel
    rw [depth] at hdepth
    have hl : readItems k (room - 1) form true (itemsChars true l ++ ']' :: rest) =
        .ok (l, rest) := by
      refine readItems_itemsChars hitems true (by omega) ?_
      simp only [chars_arr, List.length_append, List.length_cons] at hk ⊢
      omega
    rw [chars_arr, List.cons_append, List.append_assoc, List.singleton_append, read,
      skipSpace_cons rfl]
    simp only [enter_of_lt (show 1 < room by omega), bind, Except.bind, hl, pure, Except.pure]

/-! ### Objects -/

/-- The members are fields in their order, and none is left out that has to be there. -/
inductive Shown : List (String × Presence × Form) → List (String × Json) → Prop
  | nil : Shown [] []
  | left {field : String × Presence × Form} {fields ms} (h : field.2.1 ≠ .required) :
      Shown fields ms → Shown (field :: fields) ms
  | shown {name : String} {presence : Presence} {form : Form} {j : Json} {fields ms}
      (h : form.Takes 4 j) : Shown fields ms →
        Shown ((name, presence, form) :: fields) ((name, j) :: ms)

variable {fields fields' : List (String × Presence × Form)} {ms ms' : List (String × Json)}

/-- Records are shown one after the other if each of them is. -/
theorem Shown.append (h : Shown fields ms) (h' : Shown fields' ms') :
    Shown (fields ++ fields') (ms ++ ms') := by
  induction h with
  | nil => exact h'
  | left hleft _ ih => exact .left hleft ih
  | shown htakes _ ih => exact .shown htakes ih

/-- The members that are shown have the names of fields, in their order. -/
theorem Shown.names_sublist (h : Shown fields ms) :
    (ms.map (·.1)).Sublist (fields.map (·.1)) := by
  induction h with
  | nil => exact .slnil
  | left _ _ ih => exact .cons _ ih
  | shown _ _ ih => exact .cons_cons _ ih

/-- A field that has to be there is shown. -/
theorem Shown.mem_names_of_required (h : Shown fields ms) {field : String × Presence × Form}
    (hfield : field ∈ fields) (hrequired : field.2.1 = .required) :
    field.1 ∈ ms.map (·.1) := by
  induction h with
  | nil => cases hfield
  | left hleft _ ih =>
      rcases List.mem_cons.1 hfield with rfl | hrest
      · exact absurd hrequired hleft
      · exact ih hrest
  | shown _ _ ih =>
      rcases List.mem_cons.1 hfield with rfl | hrest
      · exact List.mem_cons_self
      · exact List.mem_cons_of_mem _ (ih hrest)

/-- A field of a new name does not hide those that come after it. -/
theorem lookup_cons_of_new {field : String × Presence × Form} {name : String}
    (hnew : field.1 ∉ fields.map (·.1)) (hname : name ∈ fields.map (·.1)) :
    (field :: fields).lookup name = fields.lookup name := by
  have hne : name ≠ field.1 := fun heq => hnew (heq ▸ hname)
  rw [List.lookup_cons, beq_false_of_ne hne]

/-- The form of a member is that of its field. -/
theorem Shown.exists_lookup (h : Shown fields ms) (hnames : (fields.map (·.1)).Nodup)
    {m : String × Json} (hm : m ∈ ms) :
    ∃ presence form, fields.lookup m.1 = some (presence, form) ∧ form.Takes 4 m.2 := by
  induction h with
  | nil => cases hm
  | left _ hshown ih =>
      obtain ⟨hnew, hrest⟩ := List.nodup_cons.1 hnames
      rw [lookup_cons_of_new hnew (hshown.names_sublist.subset (List.mem_map_of_mem hm))]
      exact ih hrest hm
  | shown htakes hshown ih =>
      obtain ⟨hnew, hrest⟩ := List.nodup_cons.1 hnames
      rcases List.mem_cons.1 hm with rfl | hm
      · exact ⟨_, _, List.lookup_cons_self, htakes⟩
      · rw [lookup_cons_of_new hnew (hshown.names_sublist.subset (List.mem_map_of_mem hm))]
        exact ih hrest hm

/-- Nothing is absent if all that has to be there has been seen. -/
theorem absentField?_eq_none {seen : List String}
    (h : ∀ field ∈ fields, field.2.1 = .required → field.1 ∈ seen) :
    absentField? seen fields = none := by
  rw [absentField?, List.find?_eq_none.2, Option.map_none]
  simpa using h

/-- What is left of an object, if each of its members has a field that takes it. -/
theorem readFields_membersChars
    (hmembers : ∀ m ∈ ms, ∃ presence form, fields.lookup m.1 = some (presence, form) ∧
      form.Takes 4 m.2)
    {seen : List String} (hnew : (ms.map (·.1) ++ seen).Nodup)
    (hrequired : ∀ field ∈ fields, field.2.1 = .required → field.1 ∈ ms.map (·.1) ++ seen)
    (first : Bool) {fuel room : Nat} {rest : List Char} (hdepth : depthMembers ms < room)
    (hfuel : 4 * (membersChars first ms ++ '\x7d' :: rest).length + 5 ≤
      fuel + 4 * (separator first).length) :
    readFields fuel room .declared fields seen first (membersChars first ms ++ '\x7d' :: rest) =
      .ok (ms, rest) := by
  induction ms generalizing seen first fuel with
  | nil =>
      have hle : (separator first).length ≤ 1 := by cases first <;> decide
      rw [membersChars, List.nil_append, List.length_cons] at hfuel
      obtain ⟨k, rfl⟩ : ∃ k, fuel = k + 1 := ⟨fuel - 1, by omega⟩
      rw [membersChars, List.nil_append, readFields, nextMember_bracket]
      have habsent : absentField? seen fields = none := absentField?_eq_none hrequired
      simp only [bind, Except.bind, habsent, pure, Except.pure]
  | cons m ms ih =>
      obtain ⟨⟨presence, form, hlookup, htakes⟩, hms⟩ := List.forall_mem_cons.1 hmembers
      rw [List.map_cons, List.cons_append] at hnew hrequired
      have hunseen : m.1 ∉ seen := fun h =>
        (List.nodup_cons.1 hnew).1 (List.mem_append_right _ h)
      rw [depthMembers, Nat.max_lt] at hdepth
      simp only [membersChars, List.append_assoc, List.cons_append, List.length_append,
        List.length_cons] at hfuel
      obtain ⟨k, rfl⟩ : ∃ k, fuel = k + 1 := ⟨fuel - 1, by omega⟩
      have hvalue : form.read k room (m.2.chars ++ (membersChars false ms ++ '\x7d' :: rest)) =
          .ok (m.2, membersChars false ms ++ '\x7d' :: rest) :=
        htakes.reads hdepth.1 (by simp only [List.length_append, List.length_cons]; omega)
      have hmore : readFields k room .declared fields (m.1 :: seen) false
          (membersChars false ms ++ '\x7d' :: rest) = .ok (ms, rest) := by
        refine ih hms (List.nodup_middle.2 hnew) (fun field hfield h => ?_) false hdepth.2 ?_
        · exact List.perm_middle.mem_iff.2 (hrequired field hfield h)
        · simp only [List.length_append, List.length_cons]
          omega
      have hrepeated : ¬ (Style.declared ≠ .lenient ∧ m.1 ∈ seen) := fun h => hunseen h.2
      simp only [membersChars, List.append_assoc, List.cons_append]
      rw [readFields, nextMember_separator]
      simp only [bind, Except.bind, readString_stringChars, hlookup, if_neg hrepeated,
        passColon_cons, hvalue, hmore, pure, Except.pure]

/-- An object is taken if its members have fields that take them. -/
theorem Shown.takes_declared (h : Shown fields ms) (hnames : (fields.map (·.1)).Nodup)
    (record : String) : (Form.record .declared record fields).Takes 3 (obj ms) where
  begins := ⟨'\x7b', _, chars_obj ms, by simp [Opens]⟩
  reads {fuel room rest} hdepth hfuel := by
    obtain ⟨k, rfl, hk⟩ := exists_succ_of_fuel hfuel
    rw [depth] at hdepth
    have hms : readFields k (room - 1) .declared fields [] true
        (membersChars true ms ++ '\x7d' :: rest) = .ok (ms, rest) := by
      refine readFields_membersChars (fun m hm => h.exists_lookup hnames hm) ?_ ?_ true
        (by omega) ?_
      · rw [List.append_nil]
        exact h.names_sublist.nodup hnames
      · rw [List.append_nil]
        exact fun field hfield hrequired => h.mem_names_of_required hfield hrequired
      · simp only [chars_obj, List.length_append, List.length_cons] at hk ⊢
        omega
    have hspace : skipSpace ('\x7b' :: (membersChars true ms ++ '\x7d' :: rest)) =
        '\x7b' :: (membersChars true ms ++ '\x7d' :: rest) := skipSpace_cons rfl _
    rw [chars_obj, List.cons_append, List.append_assoc, List.singleton_append,
      read.eq_def]
    simp only [hspace, enter_of_lt (show 1 < room by omega), bind, Except.bind, hms, pure,
      Except.pure]

/-- A reader of texts takes a value with no more than 127 levels. -/
theorem Takes.take_chars (h : form.Takes 4 j) (hdepth : j.depth < 128) (rest : List Char) :
    form.take (j.chars ++ rest) = .ok (j, rest) := h.reads hdepth (Nat.le_refl _)

end Form

end Json

/-- What is printed is read as the value is read. -/
theorem Decoder.ofText_print {α : Type} {d : Decoder α} {j : Json} {a : α}
    (htakes : d.form.Takes 4 j) (hdepth : j.depth < 128) (h : d.ofJson j = .ok a) :
    d.ofText j.print = .ok a := by
  have htake : d.form.take j.print.toList = .ok (j, []) := by
    have hrest := htakes.take_chars hdepth []
    rwa [List.append_nil] at hrest
  simp only [ofText, htake, h, bind, Except.bind, Json.judged, Except.mapError]
  rfl

end FolderGrants
