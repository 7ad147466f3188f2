import Spreadsheet.Proofs.ReaderLaws

/-!
Where a formula cannot be read.

Tokens are read one behind the other, each with what it keeps in the data block. The first that
cannot be read ends the reading, and the error names its position: all bytes before are tokens of
their own, and the fault lies in the bytes of this token or in its part of the data block. If bytes
are missing, then the error tells where. In the formula it says how many, and of the data block only
that it ends too early.
-/

namespace Spreadsheet

open Reader

/-- The opcode that a fault reports. -/
def DecodeFault.opcode? : DecodeFault → Option UInt8
  | unexpectedEnd opcode _ _ | unsupported opcode | truncatedData opcode => some opcode
  | _ => none

namespace Decode

variable {opcode : UInt8} {code rest data data' : List UInt8} {t : Token} {ts : List Token}
  {fault : DecodeFault} {total : Nat} {e : DecodeError}

/-! ### One token -/

/-- The fault of a token, with the opcode taken off: `rest` is what follows in the formula, `data`
what is left of the data block. -/
inductive TokenFault (opcode : UInt8) (rest data : List UInt8) : DecodeFault → Prop
  | unsupported (h : TokenKind.split? opcode = none) :
    TokenFault opcode rest data (.unsupported opcode)
  | payload {kind : TokenKind} {cls : Option TokenClass} {fault : PayloadFault}
      (hkind : TokenKind.split? opcode = some (kind, cls))
      (h : (Decode.payload kind (cls.getD .reference)).Fails rest fault) :
    TokenFault opcode rest data (inPayload opcode fault)
  | data {kind : TokenKind} {cls : Option TokenClass} {pending : Pending} {mid : List UInt8}
      {fault : PayloadFault} (hkind : TokenKind.split? opcode = some (kind, cls))
      (hpayload : (Decode.payload kind (cls.getD .reference)).Reads rest pending mid)
      (h : pending.complete.Fails data fault) :
    TokenFault opcode rest data (inData opcode fault)

lemma token_eq_error_iff :
    token opcode code data = .error fault ↔ TokenFault opcode code data fault := by
  unfold token
  constructor
  · intro h
    rcases hkind : TokenKind.split? opcode with _ | ⟨kind, cls⟩
    · simp only [hkind] at h
      cases h
      exact .unsupported hkind
    simp only [hkind] at h
    rcases hp : payload kind (cls.getD .reference) code with fault' | ⟨pending, mid, hmid⟩
    · simp only [hp] at h
      cases h
      exact .payload hkind hp
    simp only [hp] at h
    rcases hc : pending.complete data with fault' | ⟨t, data', hdata⟩
    · simp only [hc] at h
      cases h
      exact .data hkind ⟨hmid, hp⟩ hc
    · simp only [hc] at h
      cases h
  · rintro (hkind | ⟨hkind, hp⟩ | ⟨hkind, ⟨hmid, hp⟩, hc⟩)
    · simp only [hkind]
    · have hp' : payload _ _ code = .error _ := hp
      simp only [hkind, hp']
    · have hc' : Pending.complete _ data = .error _ := hc
      simp only [hkind, hp, hc']

/-- The token with this opcode is found at the front of the code, with its part at the front of the
data. -/
def FindsToken (opcode : UInt8) (code data : List UInt8) (t : Token) (rest data' : List UInt8) :
    Prop :=
  ∃ h, token opcode code data = .ok (t, ⟨rest, h⟩, data')

lemma findsToken_iff : FindsToken opcode code data t rest data' ↔
    ∃ kind cls pending, TokenKind.split? opcode = some (kind, cls) ∧
      (payload kind (cls.getD .reference)).Reads code pending rest ∧
      pending.complete.Reads data t data' := by
  unfold FindsToken token
  constructor
  · rintro ⟨_, h⟩
    rcases hkind : TokenKind.split? opcode with _ | ⟨kind, cls⟩
    · simp [hkind] at h
    simp only [hkind] at h
    rcases hp : payload kind (cls.getD .reference) code with fault' | ⟨pending, mid, hmid⟩
    · simp [hp] at h
    simp only [hp] at h
    rcases hc : pending.complete data with fault' | ⟨t, data', hdata⟩
    · simp [hc] at h
    simp only [hc] at h
    cases h
    exact ⟨kind, cls, pending, rfl, ⟨hmid, hp⟩, hdata, hc⟩
  · rintro ⟨kind, cls, pending, hkind, ⟨hmid, hp⟩, hdata, hc⟩
    exact ⟨hmid.length_le, by simp only [hkind, hp, hc]⟩

/-- A token is the same whatever follows it in the formula and in the data block. -/
lemma FindsToken.append (h : FindsToken opcode code data t rest data') :
    ∃ front, code = front ++ rest ∧ ∀ rest' more,
      FindsToken opcode (front ++ rest') (data ++ more) t rest' (data' ++ more) := by
  obtain ⟨kind, cls, pending, hkind, hp, hc⟩ := findsToken_iff.mp h
  obtain ⟨front, rfl, hfront⟩ := (lawful_payload kind (cls.getD .reference)).reads hp
  exact ⟨front, rfl, fun rest' more =>
    findsToken_iff.mpr ⟨kind, cls, pending, hkind, hfront rest', reads_append hc more⟩⟩

namespace TokenFault

/-- An opcode that is reported is that of the token. -/
lemma opcode_eq (h : TokenFault opcode rest data fault) {o : UInt8} (ho : fault.opcode? = some o) :
    o = opcode := by
  cases h with
  | unsupported => exact (Option.some.inj ho).symm
  | @payload _ _ fault | @data _ _ _ _ fault =>
    cases fault <;> cases ho
    rfl

/-- The formula ends in the token, and fewer bytes are left than needed. -/
lemma of_unexpectedEnd {o : UInt8} {needed remaining : Nat}
    (h : TokenFault opcode rest data (.unexpectedEnd o needed remaining)) :
    remaining < needed ∧ remaining ≤ rest.length ∧
      ∃ kind cls, TokenKind.split? opcode = some (kind, cls) ∧
        (Decode.payload kind (cls.getD .reference)).Fails rest (.endOfBytes needed remaining) := by
  generalize hfault : DecodeFault.unexpectedEnd o needed remaining = fault at h
  cases h with
  | unsupported => cases hfault
  | @data _ _ _ _ fault => cases fault <;> cases hfault
  | @payload kind cls fault hkind hp =>
    cases fault <;> cases hfault
    rcases (lawful_payload kind (cls.getD .reference)).fails hp with hshort | ⟨hflaw, -⟩
    · exact ⟨hshort.1, hshort.2, kind, cls, hkind, hp⟩
    · exact hflaw.elim

/-- The data block ends in the part of the token, whose payload is complete. -/
lemma of_truncatedData {o : UInt8} (h : TokenFault opcode rest data (.truncatedData o)) :
    ∃ kind cls pending mid needed remaining, TokenKind.split? opcode = some (kind, cls) ∧
      (Decode.payload kind (cls.getD .reference)).Reads rest pending mid ∧
      pending.complete.Fails data (.endOfBytes needed remaining) := by
  generalize hfault : DecodeFault.truncatedData o = fault at h
  cases h with
  | unsupported => cases hfault
  | @payload _ _ fault => cases fault <;> cases hfault
  | @data kind cls pending mid fault hkind hp hc =>
    cases fault <;> cases hfault
    exact ⟨kind, cls, pending, mid, _, _, hkind, hp, hc⟩

/-- If the data block does not lack bytes, then more of them do not change the fault. -/
lemma append_data (h : TokenFault opcode rest data fault) (hfault : fault ≠ .truncatedData opcode)
    (more : List UInt8) : TokenFault opcode rest (data ++ more) fault := by
  cases h with
  | unsupported hkind => exact .unsupported hkind
  | payload hkind hp => exact .payload hkind hp
  | @data kind cls pending mid fault hkind hp hc =>
    refine .data hkind hp ?_
    rcases (lawful_complete pending).fails hc with hshort | ⟨-, hmore⟩
    · cases fault with
      | endOfBytes => exact absurd rfl hfault
      | _ => exact hshort.elim
    · exact hmore more

end TokenFault

/-! ### All tokens -/

lemma tokens_nil (total : Nat) (data : List UInt8) : tokens total [] data = .ok ([], data) := by
  unfold tokens
  rfl

lemma tokens_cons_of_finds (h : FindsToken opcode code data t rest data') (total : Nat) :
    tokens total (opcode :: code) data =
      (tokens total rest data').map fun x => (t :: x.1, x.2) := by
  obtain ⟨hrest, ht⟩ := h
  rw [tokens, ht]
  dsimp only
  rcases tokens total rest data' with _ | _ <;> rfl

lemma tokens_cons_of_fault (h : TokenFault opcode code data fault) (total : Nat) :
    tokens total (opcode :: code) data = .error ⟨total - (code.length + 1), fault⟩ := by
  rw [tokens, token_eq_error_iff.mpr h]

/-- The whole code is tokens, one behind the other, which leave the rest of the data block. -/
inductive AllTokens : List UInt8 → List UInt8 → List Token → List UInt8 → Prop
  | nil (data : List UInt8) : AllTokens [] data [] data
  | cons {opcode : UInt8} {code rest data data' unread : List UInt8} {t : Token} {ts : List Token}
      (h : FindsToken opcode code data t rest data') (hs : AllTokens rest data' ts unread) :
    AllTokens (opcode :: code) data (t :: ts) unread

/-- What can be read alone is read in front of other tokens, and with more data behind. -/
lemma AllTokens.tokens_append (h : AllTokens code data ts data') (total : Nat)
    (rest more : List UInt8) : tokens total (code ++ rest) (data ++ more) =
      (tokens total rest (data' ++ more)).map fun x => (ts ++ x.1, x.2) := by
  induction h with
  | nil data => rw [List.nil_append]; rcases tokens total rest (data ++ more) with _ | _ <;> rfl
  | cons ht _ ih =>
    obtain ⟨front, rfl, hfront⟩ := ht.append
    rw [List.cons_append, List.append_assoc, tokens_cons_of_finds (hfront _ _), ih]
    rcases tokens total rest _ with _ | _ <;> rfl

lemma AllTokens.tokens_eq (h : AllTokens code data ts data') (total : Nat) :
    tokens total code data = .ok (ts, data') := by
  have happend := h.tokens_append total [] []
  rwa [List.append_nil, List.append_nil, List.append_nil, tokens_nil, Except.map,
    List.append_nil] at happend

/-- A token in front of other tokens. -/
lemma AllTokens.cons_append {front unread : List UInt8}
    (h : FindsToken opcode (front ++ rest) data t rest data')
    (hs : AllTokens code data' ts unread) :
    AllTokens (opcode :: (front ++ code)) data (t :: ts) unread := by
  obtain ⟨front', hfront', happend⟩ := h.append
  obtain rfl : front = front' := List.append_cancel_right hfront'
  have hfound := happend code []
  rw [List.append_nil, List.append_nil] at hfound
  exact .cons hfound hs

/-- Where the reading of a formula ends too early, all bytes before are tokens. -/
lemma exists_fault_of_tokens (h : tokens total code data = .error e) :
    ∃ front opcode rest ts unread, code = front ++ opcode :: rest ∧
      e.offset = total - (rest.length + 1) ∧ AllTokens front data ts unread ∧
      TokenFault opcode rest unread e.fault := by
  fun_induction tokens total code data with
  | case1 => cases h
  | case2 data opcode rest fault hfault =>
    cases h
    exact ⟨[], opcode, rest, [], data, rfl, rfl, .nil data, token_eq_error_iff.mp hfault⟩
  | case3 data opcode code t mid hmid data' ht ih =>
    have hmore : tokens total mid data' = .error e := by
      rcases hs : tokens total mid data' with e' | x
      · rw [hs] at h
        exact h
      · rw [hs] at h
        cases h
    obtain ⟨front', o, rest, ts, unread, rfl, hoffset, hs, hfault⟩ := ih hmore
    have hfound : FindsToken opcode code data t (front' ++ o :: rest) data' := ⟨hmid, ht⟩
    obtain ⟨front, rfl, -⟩ := hfound.append
    exact ⟨opcode :: (front ++ front'), o, rest, t :: ts, unread, by simp, hoffset,
      .cons_append hfound hs, hfault⟩

end Decode

/-! ### The error -/

/-- An error points at the token with this opcode: it starts at the position of the error, `rest`
follows its opcode, and the tokens `before` were read and left `unread` of the data block. -/
structure DecodeError.PointsAt (e : DecodeError) (code data : List UInt8) (opcode : UInt8)
    (rest : List UInt8) (before : List Token) (unread : List UInt8) : Prop where
  offset_lt : e.offset < code.length
  drop_offset : code.drop e.offset = opcode :: rest
  /-- The bytes before are a formula of their own with the same data block. -/
  reads_before : decodeWithRest (code.take e.offset) data = .ok (before, unread)
  /-- It is this token which cannot be read, be it in the formula or in its part of the data. -/
  fault : Decode.TokenFault opcode rest unread e.fault
  /-- If the error reports an opcode, then that of the token. -/
  opcode_eq : ∀ o, e.fault.opcode? = some o → o = opcode
  /-- Where the formula ends too early, fewer bytes are left than needed. -/
  unexpectedEnd : ∀ o needed remaining, e.fault = .unexpectedEnd o needed remaining →
    remaining < needed ∧ remaining ≤ rest.length ∧
      ∃ kind cls, TokenKind.split? opcode = some (kind, cls) ∧
        (Decode.payload kind (cls.getD .reference)).Fails rest (.endOfBytes needed remaining)
  /-- If it is in the data block that the token lacks bytes, and only then, the block is reported as
  truncated. -/
  data_shortage : e.fault = .truncatedData opcode ↔
    ∃ kind cls pending mid needed remaining, TokenKind.split? opcode = some (kind, cls) ∧
      (Decode.payload kind (cls.getD .reference)).Reads rest pending mid ∧
      pending.complete.Fails unread (.endOfBytes needed remaining)
  /-- If more data would lead to something else, then the block is reported as truncated. -/
  more_data : ∀ more, decode code (data ++ more) ≠ .error e → e.fault = .truncatedData opcode

/-- **Errors point at the offending token.** -/
theorem exists_pointsAt_of_decode {code data : List UInt8} {e : DecodeError}
    (h : decode code data = .error e) :
    ∃ opcode rest before unread, e.PointsAt code data opcode rest before unread := by
  have htokens : Decode.tokens code.length code data = .error e := by
    unfold decode decodeWithRest at h
    rcases hs : Decode.tokens code.length code data with e' | x
    · rw [hs] at h
      cases h
      rfl
    · rw [hs] at h
      cases h
  obtain ⟨front, opcode, rest, ts, unread, hcode, hoffset, hs, hfault⟩ :=
    Decode.exists_fault_of_tokens htokens
  have hlength : e.offset = front.length := by
    rw [hoffset, hcode]
    simp
  refine ⟨opcode, rest, ts, unread, ?_, ?_, ?_, hfault, fun o => hfault.opcode_eq,
    fun o needed remaining he => (he ▸ hfault).of_unexpectedEnd,
    ⟨fun he => (he ▸ hfault).of_truncatedData, ?_⟩, ?_⟩
  · rw [hlength, hcode]
    simp
  · rw [hlength, hcode, List.drop_left]
  · rw [hlength, hcode, List.take_left]
    exact hs.tokens_eq _
  · rintro ⟨kind, cls, pending, mid, needed, remaining, hkind, hp, hc⟩
    have heq := Decode.token_eq_error_iff.mpr (.data hkind hp hc)
    rw [Decode.token_eq_error_iff.mpr hfault] at heq
    exact Except.error.inj heq
  · intro more hne
    by_contra hfault'
    refine hne ?_
    have hmore := Decode.tokens_cons_of_fault (hfault.append_data hfault' more) code.length
    have hall := hs.tokens_append code.length (opcode :: rest) more
    rw [hmore, ← hcode, ← hoffset] at hall
    unfold decode decodeWithRest
    rw [hall]
    rfl

/-- Behind the number 5, an array constant of which the data block holds the first byte only. -/
theorem exists_pointsAt_of_decode_truncated :
    let code := [0x1E, 5, 0, 0x60, 1, 2, 3, 4, 5, 6, 7]
    let e : DecodeError := ⟨3, .truncatedData 0x60⟩
    decode code [0] = .error e ∧ e.PointsAt code [0] 0x60 [1, 2, 3, 4, 5, 6, 7] [.int 5] [0] := by
  intro code e
  have h : decode code [0] = .error e := by cbv
  obtain ⟨opcode, rest, before, unread, hpoints⟩ := exists_pointsAt_of_decode h
  have hread : decodeWithRest (code.take e.offset) [0] = .ok ([.int 5], [0]) := by cbv
  have hdrop : opcode :: rest = [0x60, 1, 2, 3, 4, 5, 6, 7] := hpoints.drop_offset.symm
  have hbefore := hpoints.reads_before.symm.trans hread
  cases hdrop
  cases hbefore
  exact ⟨h, hpoints⟩

end Spreadsheet
