import XinghaiApi.Lib.Ip

/-!
# Hosts with ports

The address of a connection is a host and the text of a port behind a colon; a host with colons of
its own stands in brackets. What is joined is split again, for the port of a number and the text of
an address.
-/

namespace Ip

/-! ### Numbers with a sign -/

variable {s : List Char}

/-- The integer of 64 bits that the text is. -/
def atoi (s : String) : Option ℤ :=
  match s.toList with
  | '-' :: digits => ((readNumber 10 digits).filter (· ≤ 2 ^ 63)).map fun n : ℕ => -(n : ℤ)
  | '+' :: digits => ((readNumber 10 digits).filter (· < 2 ^ 63)).map Int.ofNat
  | digits        => ((readNumber 10 digits).filter (· < 2 ^ 63)).map Int.ofNat

lemma digitValue_of_foldlM {base acc n : ℕ} (h : s.foldlM (readDigit base) acc = some n) :
    ∀ c ∈ s, (digitValue c).isSome := by
  induction s generalizing acc with
  | nil => simp
  | cons c s ih =>
    rw [List.foldlM_cons, Option.bind_eq_bind, Option.bind_eq_some_iff] at h
    obtain ⟨next, hc, hs⟩ := h
    intro d hd
    rcases List.mem_cons.mp hd with rfl | hd
    · cases hvalue : digitValue d with
      | none => simp [readDigit, hvalue] at hc
      | some v => rfl
    · exact ih hs d hd

lemma digitValue_of_readNumber {base n : ℕ} (h : readNumber base s = some n) :
    ∀ c ∈ s, (digitValue c).isSome := by
  rw [readNumber] at h
  split_ifs at h
  exact digitValue_of_foldlM h

/-- The characters of a number are digits, or the sign. -/
lemma digitValue_of_atoi {s : String} {n : ℤ} (h : atoi s = some n) :
    ∀ c ∈ s.toList, (digitValue c).isSome ∨ c = '-' ∨ c = '+' := by
  have hread : ∀ {digits : List Char} {p : ℕ → Bool} {f : ℕ → ℤ},
      ((readNumber 10 digits).filter p).map f = some n →
        ∀ c ∈ digits, (digitValue c).isSome ∨ c = '-' ∨ c = '+' := by
    intro digits p f hdigits c hc
    obtain ⟨m, hm, -⟩ := Option.map_eq_some_iff.mp hdigits
    exact Or.inl (digitValue_of_readNumber (Option.filter_eq_some_iff.mp hm).1 c hc)
  rw [atoi] at h
  split at h
  next digits hs =>
    rw [hs]
    exact fun c hc => (List.mem_cons.mp hc).elim (fun h => Or.inr (Or.inl h)) (hread h c)
  next digits hs =>
    rw [hs]
    exact fun c hc => (List.mem_cons.mp hc).elim (fun h => Or.inr (Or.inr h)) (hread h c)
  next => exact hread h

lemma isDigit_of_readDigit {acc n : ℕ} {c : Char} (h : readDigit 10 acc c = some n) :
    c.isDigit = true := by
  obtain ⟨v, hv, -⟩ := Option.map_eq_some_iff.mp h
  obtain ⟨hvalue, hlt⟩ := Option.filter_eq_some_iff.mp hv
  have hlt : v < 10 := by simpa using hlt
  rw [digitValue] at hvalue
  split_ifs at hvalue with hdigit hlower hupper
  · simpa [Char.isDigit, Char.le_def] using hdigit
  · have := Option.some.inj hvalue
    omega
  · have := Option.some.inj hvalue
    omega

lemma isDigit_of_readNumber {n : ℕ} (h : readNumber 10 s = some n) : ∀ c ∈ s, c.isDigit = true := by
  have hfold : ∀ {s : List Char} {acc : ℕ}, s.foldlM (readDigit 10) acc = some n →
      ∀ c ∈ s, c.isDigit = true := by
    intro s
    induction s with
    | nil => simp
    | cons c s ih =>
      intro acc h
      rw [List.foldlM_cons, Option.bind_eq_bind, Option.bind_eq_some_iff] at h
      obtain ⟨next, hc, hs⟩ := h
      exact List.forall_mem_cons.mpr ⟨isDigit_of_readDigit hc, ih hs⟩
  rw [readNumber] at h
  split_ifs at h
  exact hfold h

/-- A number below zero is digits behind a sign. -/
lemma digits_of_atoi_neg {s : String} {i : ℤ} (h : atoi s = some i) (hi : i < 0) :
    ∃ digits, s.toList = '-' :: digits ∧ readNumber 10 digits = some i.natAbs := by
  have hnonneg : ∀ {n : Option ℕ}, n.map Int.ofNat ≠ some i := by
    intro n hn
    obtain ⟨m, -, rfl⟩ := Option.map_eq_some_iff.mp hn
    exact absurd hi (by simp)
  rw [atoi] at h
  split at h
  next digits hs =>
    obtain ⟨n, hn, rfl⟩ := Option.map_eq_some_iff.mp h
    exact ⟨digits, hs, by simpa using (Option.filter_eq_some_iff.mp hn).1⟩
  next => exact absurd h hnonneg
  next => exact absurd h hnonneg

/-! ### Hosts and ports -/

def addrError (hostport why : String) : Except String (String × String) :=
  .error (if hostport = "" then why else "address " ++ hostport ++ ": " ++ why)

/-- The last colon is in front of the port. A host in brackets may have colons itself. -/
def splitHostPort (hostport : String) : Except String (String × String) :=
  let s := hostport.toList
  if ':' ∉ s then addrError hostport "missing port in address"
  else if s.head? = some '[' then
    match s.dropWhile (· ≠ ']') with
    | []             => addrError hostport "missing ']' in address"
    | [_]            => addrError hostport "missing port in address"
    | _ :: c :: port =>
      if c = ':' ∧ ':' ∉ port then
        if '[' ∈ s.tail then addrError hostport "unexpected '[' in address"
        else if ']' ∈ port then addrError hostport "unexpected ']' in address"
        else .ok (String.ofList (s.tail.takeWhile (· ≠ ']')), String.ofList port)
      else if c = ':' then addrError hostport "too many colons in address"
      else addrError hostport "missing port in address"
  else
    let port := (s.dropWhile (· ≠ ':')).tail
    if ':' ∈ port then addrError hostport "too many colons in address"
    else if '[' ∈ s then addrError hostport "unexpected '[' in address"
    else if ']' ∈ s then addrError hostport "unexpected ']' in address"
    else .ok (String.ofList (s.takeWhile (· ≠ ':')), String.ofList port)

def joinHostPort (host port : String) : String :=
  if ':' ∈ host.toList then "[" ++ host ++ "]:" ++ port else host ++ ":" ++ port

lemma takeWhile_ne_append {sep : Char} (h : sep ∉ s) (t : List Char) :
    (s ++ sep :: t).takeWhile (· ≠ sep) = s := by
  rw [List.takeWhile_append_of_pos fun c hc => by
    simpa using fun heq : c = sep => h (heq ▸ hc)]
  simp

lemma dropWhile_ne_append {sep : Char} (h : sep ∉ s) (t : List Char) :
    (s ++ sep :: t).dropWhile (· ≠ sep) = sep :: t := by
  rw [List.dropWhile_append_of_pos fun c hc => by
    simpa using fun heq : c = sep => h (heq ▸ hc)]
  simp

/-- A host without brackets and a port without separators are split where they were joined. -/
lemma splitHostPort_joinHostPort {host port : String} (hhost : ∀ c ∈ host.toList, c ≠ '[' ∧ c ≠ ']')
    (hport : ∀ c ∈ port.toList, c ≠ ':' ∧ c ≠ '[' ∧ c ≠ ']') :
    splitHostPort (joinHostPort host port) = .ok (host, port) := by
  have hopen : '[' ∉ host.toList := fun h => (hhost _ h).1 rfl
  have hclose : ']' ∉ host.toList := fun h => (hhost _ h).2 rfl
  have hcolon : ':' ∉ port.toList := fun h => (hport _ h).1 rfl
  have hopenPort : '[' ∉ port.toList := fun h => (hport _ h).2.1 rfl
  have hclosePort : ']' ∉ port.toList := fun h => (hport _ h).2.2 rfl
  by_cases hbrackets : ':' ∈ host.toList
  · have hlist : (joinHostPort host port).toList =
        ('[' :: host.toList) ++ ']' :: ':' :: port.toList := by
      simp [joinHostPort, hbrackets]
    have hdrop := dropWhile_ne_append
      (show ']' ∉ '[' :: host.toList by simp [hclose]) (':' :: port.toList)
    have htake := takeWhile_ne_append hclose (':' :: port.toList)
    rw [← hlist] at hdrop
    simp only [decide_not] at htake
    simp only [splitHostPort, hdrop]
    simp [hlist, htake, hcolon, hopen, hopenPort, hclosePort]
  · have hlist : (joinHostPort host port).toList = host.toList ++ ':' :: port.toList := by
      simp [joinHostPort, hbrackets]
    have hdrop := dropWhile_ne_append hbrackets port.toList
    have htake := takeWhile_ne_append hbrackets port.toList
    have hhead : host.toList.head?.getD ':' ≠ '[' := by
      cases hs : host.toList with
      | nil => simp
      | cons c cs => simpa using (hhost c (hs ▸ List.mem_cons_self)).1
    simp only [decide_not] at hdrop htake
    simp [splitHostPort, hlist, hdrop, htake, hhead, hcolon, hopen, hclose, hopenPort, hclosePort]

/-- The address of a connection to a numbered port of an address is split into both. -/
theorem splitHostPort_string {ip : IP} {port : String} {n : ℤ} (hport : atoi port = some n) :
    splitHostPort (joinHostPort ip.string port) = .ok (ip.string, port) := by
  have haddress : ∀ c ∈ "0123456789abcdefABCDEF.:".toList, c ≠ '[' ∧ c ≠ ']' := by decide
  have hseparator : ∀ c ∈ [':', '[', ']'], ¬((digitValue c).isSome ∨ c = '-' ∨ c = '+') := by decide
  refine splitHostPort_joinHostPort (fun c hc => haddress c ?_) fun c hc => ?_
  · simpa [isAddressChar] using isAddressChar_of_parseIP (parseIP_string ip) c hc
  · have hdigit := digitValue_of_atoi hport c hc
    refine ⟨?_, ?_, ?_⟩ <;> rintro rfl <;> exact hseparator _ (by decide) hdigit

end Ip
