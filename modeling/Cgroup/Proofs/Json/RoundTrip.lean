import Cgroup.Json.Reader
import Cgroup.Proofs.Json.Number

/-!
# Values that are read back

A value is read back from its compact text (`parse?_print`) if its numbers are ones that a reader
takes and its arrays and objects are not nested too deep (`Value.Fits`).

The reader makes tokens of the whole text before it looks at the first, but a token is cut off
without a look at what the rest means, so that `advance` can be run along the text one token at a
time. What a value does to the reader is said for any frames that are open around it and any text
behind it (`Value.Advances`), which is what the induction over the value needs.
-/

namespace Cgroup.Json

open Token

/-! ## Token by token -/

/-- The state of a reader after a text. -/
def advance (state : State) (t : List Char) : Option State :=
  (tokens? t).bind (List.foldlM State.step state)

variable {state : State} {t rest : List Char}

/-- A reader goes on with the token that the text begins in. -/
theorem advance_of_step {token : Token} {next : State}
    (ht : tokens? t = (tokens? rest).map (token :: ·)) (hstep : state.step token = some next) :
    advance state t = advance next rest := by
  unfold advance
  rw [ht]
  cases tokens? rest with
  | none => rfl
  | some tokens => simp [List.foldlM_cons, hstep]

theorem tokens?_punctuation {c : Char} {token : Token} (h : punctuation? c = some token)
    (rest : List Char) : tokens? (c :: rest) = (tokens? rest).map (token :: ·) := by
  have hc : isSpace c = false ∧ c ≠ '"' := by
    unfold punctuation? at h
    split at h <;> first | decide | cases h
  rw [tokens?, hc.1, if_neg Bool.false_ne_true, if_neg hc.2]
  simp only [h]

theorem advance_punctuation {c : Char} {token : Token} {next : State}
    (hc : punctuation? c = some token) (hstep : state.step token = some next) (rest : List Char) :
    advance state (c :: rest) = advance next rest :=
  advance_of_step (tokens?_punctuation hc rest) hstep

theorem tokens?_quote (s rest : List Char) :
    tokens? (quote s ++ rest) =
      (tokens? rest).map (.atom (.string (String.ofList s)) :: ·) := by
  have hread := unquote?_flatMap_escape s rest
  have hspace : isSpace '"' = false := by decide
  have hquote : quote s ++ rest = '"' :: (s.flatMap escape ++ '"' :: rest) := by simp [quote]
  rw [hquote, tokens?, hspace, if_neg Bool.false_ne_true, if_pos rfl]
  split
  · rename_i hnone
    rw [hread] at hnone
    cases hnone
  · rename_i hsome
    rw [hread] at hsome
    cases hsome
    rfl

/-- No token but a word begins in a character of words. -/
theorem beginsWord_of_isWordChar {c : Char} (h : isWordChar c) :
    isSpace c = false ∧ c ≠ '"' ∧ punctuation? c = none := by
  refine ⟨?_, ?_, ?_⟩
  · by_contra hspace
    simp only [isSpace, Bool.not_eq_false, Bool.or_eq_true, decide_eq_true_eq] at hspace
    rcases hspace with ((rfl | rfl) | rfl) | rfl <;> exact absurd h (by decide)
  · rintro rfl
    exact absurd h (by decide)
  · unfold punctuation?
    split <;> first | exact absurd h (by decide) | rfl

/-- A text that ends a word: it is empty or begins in none of the characters of words. -/
def EndsWord (rest : List Char) : Prop :=
  ∀ c ∈ rest.head?, isWordChar c = false

theorem tokens?_word {word : List Char} (hne : word ≠ []) (hword : ∀ c ∈ word, isWordChar c)
    (hrest : EndsWord rest) {v : Value} (hv : ofWord? word = some v) :
    tokens? (word ++ rest) = (tokens? rest).map (.atom v :: ·) := by
  obtain ⟨c, word, rfl⟩ := List.exists_cons_of_ne_nil hne
  obtain ⟨hc, hword⟩ := List.forall_mem_cons.1 hword
  obtain ⟨hspace, hquote, hpunctuation⟩ := beginsWord_of_isWordChar hc
  obtain ⟨htake, hdrop⟩ := span_append hword hrest
  rw [List.cons_append, tokens?, hspace, if_neg Bool.false_ne_true, if_neg hquote]
  simp only [hpunctuation, htake, hdrop, hv]

/-! ## Numbers -/

theorem isWordChar_of_isDigit {c : Char} (h : c.isDigit) : isWordChar c := by
  simp [isWordChar, Char.isAlphanum, h]

theorem isWordChar_of_mem_signed {i : Int} {c : Char} (h : c ∈ Numeral.signed i) :
    isWordChar c := by
  rcases Numeral.eq_minus_or_isDigit_of_mem_signed h with rfl | hdigit
  · decide
  · exact isWordChar_of_isDigit hdigit

namespace Decimal

variable {d : Decimal}

theorem IsProper.isWordChar (h : d.IsProper) : ∀ c ∈ d.render, isWordChar c := by
  have hwhole : ∀ c ∈ d.whole, Token.isWordChar c := fun c hc =>
    isWordChar_of_isDigit (h.whole_digits c hc)
  have hfraction : ∀ c ∈ d.fraction, Token.isWordChar c := fun c hc =>
    isWordChar_of_isDigit (h.fraction_digits c hc)
  unfold render
  refine List.forall_mem_append.2 ⟨List.forall_mem_append.2 ⟨List.forall_mem_append.2
    ⟨?_, hwhole⟩, ?_⟩, ?_⟩
  · split <;> simp [Token.isWordChar]
  · split
    · exact List.forall_mem_nil _
    · exact List.forall_mem_cons.2 ⟨by decide, hfraction⟩
  · split
    · exact List.forall_mem_nil _
    · exact List.forall_mem_cons.2 ⟨by decide, fun _ => isWordChar_of_mem_signed⟩

/-- A number begins in its sign or in a digit. -/
theorem IsProper.exists_render_eq (h : d.IsProper) :
    ∃ c rest, d.render = c :: rest ∧ (c = '-' ∨ c.isDigit) := by
  obtain ⟨c, rest, hwhole, hc⟩ := h.exists_whole_eq
  unfold render
  cases d.negative with
  | true => exact ⟨'-', _, rfl, .inl rfl⟩
  | false => exact ⟨c, _, by rw [hwhole]; rfl, .inr hc⟩

/-- A number is no literal and is read back. -/
theorem IsProper.ofWord?_render (h : d.IsProper) (hfinite : d.isFinite) :
    ofWord? d.render = some (.number d) := by
  obtain ⟨c, rest, hrender, hc⟩ := h.exists_render_eq
  have hne : ∀ word ∈ ["null", "true", "false"], d.render ≠ word.toList := by
    intro word hword heq
    have hletter : ∀ word ∈ ["null", "true", "false"],
        word.toList.head?.any (fun letter => letter = '-' || letter.isDigit) = false := by decide
    have hhead := hletter word hword
    have hbegin : (decide (c = '-') || c.isDigit) = true := by simpa using hc
    rw [← heq, hrender, List.head?_cons, Option.any_some, hbegin] at hhead
    cases hhead
  rw [ofWord?, if_neg (hne _ (by decide)), if_neg (hne _ (by decide)), if_neg (hne _ (by decide)),
    h.ofChars?_render, Option.bind_some, if_pos hfinite]

end Decimal

/-! ## Values -/

/-- A value that is read back where a certain number of arrays and objects may be opened. -/
inductive Value.Fits : Nat → Value → Prop where
  | null {room : Nat} : Fits room .null
  | bool {room : Nat} (b : Bool) : Fits room (.bool b)
  | number {room : Nat} {d : Decimal} (hd : d.IsProper) (hfinite : d.isFinite) :
      Fits room (.number d)
  | string {room : Nat} (s : String) : Fits room (.string s)
  | array {room : Nat} {items : List Value} (hitems : ∀ v ∈ items, Fits room v) :
      Fits (room + 1) (.array items)
  | object {room : Nat} {members : List (String × Value)}
      (hmembers : ∀ member ∈ members, Fits room member.2) : Fits (room + 1) (.object members)

/-- A state in which the reader waits for a value with the given frames around it. -/
def State.Awaits (state : State) (frames : List Frame) : Prop :=
  ∀ token, token ≠ .endArray → state.step token = State.enter frames token

theorem State.awaits_value (frames : List Frame) : (value frames).Awaits frames :=
  fun _ _ => rfl

/-- The first item of an array is a value in an array without items. -/
theorem State.awaits_item (frames : List Frame) : (item frames).Awaits (.array [] :: frames) := by
  intro token htoken
  cases token <;> first | rfl | exact absurd rfl htoken

/-- What a value does to a reader: it is read, whatever is open around it and follows it. -/
def Value.Advances (room : Nat) (v : Value) : Prop :=
  ∀ ⦃state : State⦄ ⦃frames : List Frame⦄ ⦃rest : List Char⦄, state.Awaits frames →
    frames.length + room ≤ State.depthLimit → EndsWord rest →
    advance state (v.render ++ rest) = advance (.after frames v) rest

variable {room : Nat} {frames : List Frame}

theorem endsWord_of_punctuation? {c : Char} {token : Token} (h : punctuation? c = some token)
    (rest : List Char) : EndsWord (c :: rest) := by
  intro c' hc
  obtain rfl : c = c' := Option.some.inj hc
  by_contra hword
  rw [(beginsWord_of_isWordChar (by simpa using hword)).2.2] at h
  cases h

namespace Value

/-- A word that is a value. -/
theorem advances_of_word {v : Value} (hne : v.render ≠ []) (hword : v.render.all isWordChar)
    (hv : ofWord? v.render = some v) : v.Advances room := by
  intro state frames rest hawaits hroom hrest
  have hchars := List.all_eq_true.1 hword
  exact advance_of_step (tokens?_word hne hchars hrest hv) (hawaits _ (by simp))

theorem advances_string (s : String) : (string s).Advances room := by
  intro state frames rest hawaits hroom hrest
  have ht := tokens?_quote s.toList rest
  rw [String.ofList_toList] at ht
  exact advance_of_step ht (hawaits _ (by simp))

/-! ## Arrays -/

theorem endsWord_renderItems (items : List Value) (rest : List Char) :
    EndsWord (renderItems items ++ rest) := by
  cases items with
  | nil => exact endsWord_of_punctuation? rfl _
  | cons v items => exact endsWord_of_punctuation? rfl _

/-- Behind an item of an array, the items that follow are read and the array is closed. -/
theorem advance_renderItems {items : List Value} (hitems : ∀ v ∈ items, v.Advances room)
    (hroom : frames.length + (room + 1) ≤ State.depthLimit) (read : List Value) (v : Value)
    (rest : List Char) :
    advance (.after (.array read :: frames) v) (renderItems items ++ rest) =
      advance (.after frames (.array (read ++ v :: items))) rest := by
  induction items generalizing read v with
  | nil => exact advance_punctuation rfl rfl rest
  | cons next items ih =>
    obtain ⟨hnext, hitems⟩ := List.forall_mem_cons.1 hitems
    have hdepth : (Frame.array (read ++ [v]) :: frames).length + room ≤ State.depthLimit := by
      rw [List.length_cons]
      omega
    rw [renderItems, List.append_assoc, List.cons_append]
    calc advance (.after (.array read :: frames) v)
          (',' :: (next.render ++ (renderItems items ++ rest)))
      _ = advance (.value (.array (read ++ [v]) :: frames))
            (next.render ++ (renderItems items ++ rest)) := advance_punctuation rfl rfl _
      _ = advance (.after (.array (read ++ [v]) :: frames) next) (renderItems items ++ rest) :=
          hnext (State.awaits_value _) hdepth (endsWord_renderItems items rest)
      _ = advance (.after frames (.array (read ++ v :: next :: items))) rest := by
          rw [ih hitems, List.append_assoc, List.singleton_append]

theorem advances_array {items : List Value} (hitems : ∀ v ∈ items, v.Advances room) :
    (array items).Advances (room + 1) := by
  intro state frames rest hawaits hroom hrest
  have hopen : state.step .beginArray = some (.item frames) := by
    rw [hawaits _ (by simp)]
    exact if_pos (by omega)
  cases items with
  | nil =>
    calc advance state ('[' :: ']' :: rest)
      _ = advance (.item frames) (']' :: rest) := advance_punctuation rfl hopen _
      _ = advance (.after frames (.array [])) rest := advance_punctuation rfl rfl _
  | cons v items =>
    obtain ⟨hv, hitems⟩ := List.forall_mem_cons.1 hitems
    have hdepth : (Frame.array [] :: frames).length + room ≤ State.depthLimit := by
      rw [List.length_cons]
      omega
    rw [render, List.append_assoc, List.cons_append]
    calc advance state ('[' :: (v.render ++ (renderItems items ++ rest)))
      _ = advance (.item frames) (v.render ++ (renderItems items ++ rest)) :=
          advance_punctuation rfl hopen _
      _ = advance (.after (.array [] :: frames) v) (renderItems items ++ rest) :=
          hv (State.awaits_item _) hdepth (endsWord_renderItems items rest)
      _ = advance (.after frames (.array (v :: items))) rest :=
          advance_renderItems hitems hroom [] v rest

/-! ## Objects -/

theorem endsWord_renderMembers (members : List (String × Value)) (rest : List Char) :
    EndsWord (renderMembers members ++ rest) := by
  cases members with
  | nil => exact endsWord_of_punctuation? rfl _
  | cons member members => exact endsWord_of_punctuation? rfl _

/-- A member of an object is read where a key may come. -/
theorem advance_member {v : Value} (hv : v.Advances room)
    (hroom : frames.length + (room + 1) ≤ State.depthLimit) (read : List (String × Value))
    (key : String) (hrest : EndsWord rest) :
    advance (.key frames read) (quote key.toList ++ ':' :: (v.render ++ rest)) =
      advance (.after (.object read key :: frames) v) rest := by
  have hdepth : (Frame.object read key :: frames).length + room ≤ State.depthLimit := by
    rw [List.length_cons]
    omega
  have hkey : (State.key frames read).step (.atom (.string key)) =
      some (.colon frames read key) := by
    cases read <;> rfl
  have ht := tokens?_quote key.toList (':' :: (v.render ++ rest))
  rw [String.ofList_toList] at ht
  calc advance (.key frames read) (quote key.toList ++ ':' :: (v.render ++ rest))
    _ = advance (.colon frames read key) (':' :: (v.render ++ rest)) := advance_of_step ht hkey
    _ = advance (.value (.object read key :: frames)) (v.render ++ rest) :=
        advance_punctuation rfl rfl _
    _ = advance (.after (.object read key :: frames) v) rest :=
        hv (State.awaits_value _) hdepth hrest

/-- Behind a member of an object, the members that follow are read and the object is closed. -/
theorem advance_renderMembers {members : List (String × Value)}
    (hmembers : ∀ member ∈ members, member.2.Advances room)
    (hroom : frames.length + (room + 1) ≤ State.depthLimit) (read : List (String × Value))
    (key : String) (v : Value) (rest : List Char) :
    advance (.after (.object read key :: frames) v) (renderMembers members ++ rest) =
      advance (.after frames (.object (read ++ (key, v) :: members))) rest := by
  induction members generalizing read key v with
  | nil => exact advance_punctuation rfl rfl rest
  | cons member members ih =>
    obtain ⟨nextKey, next⟩ := member
    obtain ⟨hmember, hmembers⟩ := List.forall_mem_cons.1 hmembers
    rw [renderMembers, List.append_assoc, List.append_assoc, List.cons_append, List.cons_append]
    calc advance (.after (.object read key :: frames) v)
          (',' :: (quote nextKey.toList ++ ':' :: (next.render ++ (renderMembers members ++ rest))))
      _ = advance (.key frames (read ++ [(key, v)]))
            (quote nextKey.toList ++ ':' :: (next.render ++ (renderMembers members ++ rest))) :=
          advance_punctuation rfl rfl _
      _ = advance (.after (.object (read ++ [(key, v)]) nextKey :: frames) next)
            (renderMembers members ++ rest) :=
          advance_member hmember hroom _ nextKey (endsWord_renderMembers members rest)
      _ = advance (.after frames (.object (read ++ (key, v) :: (nextKey, next) :: members)))
            rest := by
          rw [ih hmembers, List.append_assoc, List.singleton_append]

theorem advances_object {members : List (String × Value)}
    (hmembers : ∀ member ∈ members, member.2.Advances room) :
    (object members).Advances (room + 1) := by
  intro state frames rest hawaits hroom hrest
  have hopen : state.step .beginObject = some (.key frames []) := by
    rw [hawaits _ (by simp)]
    exact if_pos (by omega)
  cases members with
  | nil =>
    calc advance state ('\x7b' :: '\x7d' :: rest)
      _ = advance (.key frames []) ('\x7d' :: rest) := advance_punctuation rfl hopen _
      _ = advance (.after frames (.object [])) rest := advance_punctuation rfl rfl _
  | cons member members =>
    obtain ⟨key, v⟩ := member
    obtain ⟨hv, hmembers⟩ := List.forall_mem_cons.1 hmembers
    rw [render, List.append_assoc, List.append_assoc, List.cons_append, List.cons_append]
    calc advance state
          ('\x7b' :: (quote key.toList ++ ':' :: (v.render ++ (renderMembers members ++ rest))))
      _ = advance (.key frames [])
            (quote key.toList ++ ':' :: (v.render ++ (renderMembers members ++ rest))) :=
          advance_punctuation rfl hopen _
      _ = advance (.after (.object [] key :: frames) v) (renderMembers members ++ rest) :=
          advance_member hv hroom [] key (endsWord_renderMembers members rest)
      _ = advance (.after frames (.object ((key, v) :: members))) rest :=
          advance_renderMembers hmembers hroom [] key v rest

/-! ## All values -/

theorem Fits.advances {v : Value} (h : v.Fits room) : v.Advances room := by
  induction h with
  | null => exact advances_of_word (by decide) (by decide) rfl
  | bool b => cases b <;> exact advances_of_word (by decide) (by decide) rfl
  | @number room d hd hfinite =>
    obtain ⟨c, rest, hrender, -⟩ := hd.exists_render_eq
    have hne : (Value.number d).render ≠ [] := by simp [render, hrender]
    have hword : d.render.all isWordChar := List.all_eq_true.2 hd.isWordChar
    exact advances_of_word hne hword (hd.ofWord?_render hfinite)
  | string s => exact advances_string s
  | array hitems ih => exact advances_array ih
  | object hmembers ih => exact advances_object ih

theorem parse?_eq_bind (text : String) :
    parse? text = (advance (.value []) text.toList).bind State.result? := by
  rw [parse?, advance, Option.bind_assoc]
  rfl

/-- A value is read back from its compact text. -/
theorem Fits.parse?_print {v : Value} (h : v.Fits State.depthLimit) : parse? v.print = some v := by
  have hread : advance (.value []) (v.render ++ []) = advance (.after [] v) [] :=
    h.advances (State.awaits_value []) (Nat.le_of_eq (Nat.zero_add _)) (by simp [EndsWord])
  have hend : advance (.after [] v) [] = some (.after [] v) := by simp [advance, tokens?]
  rw [parse?_eq_bind, print, String.toList_ofList, ← List.append_nil v.render, hread, hend]
  rfl

end Value
end Cgroup.Json
