/-
`internal/logging/nats.go`: `NATSAddress`, the form in which the gateway logs
the servers it connects to — scheme and host, never the userinfo.

The address is split at its commas first and each item is parsed as a URL
then.  For a userinfo without a comma the item is the whole URL and the log
line is made from scheme and host alone (`addressItems_userinfo`).  A comma in
the userinfo makes two items of one URL, of which the first is the beginning
of the secret, taken for a host.
-/

import NexusGateway.Lib.Url

namespace NexusGateway.Logging

open Lib

def invalidAddress : List Char := "[invalid NATS address]".toList

def natsSchemes : List String := ["nats", "tls", "ws", "wss"]

def serverLocation (u : Url) : List Char :=
  if u.hostname = [] ∨ u.host.any "@\\\r\n\t ".toList.contains then invalidAddress
  else if natsSchemes.contains (String.ofList u.scheme) then
    u.scheme ++ "://".toList ++ Url.escapeHost u.host
  else invalidAddress

/-- An item as it is parsed: without the space around it, and with a scheme. -/
def addressUrl (part : List Char) : List Char :=
  let part := trimSpace part
  if "://".toList <:+: part then part else "nats://".toList ++ part

def addressItem (part : List Char) : List Char :=
  match Url.parse (addressUrl part) with
  | none => invalidAddress
  | some u => serverLocation u

def addressItems (address : List Char) : List Char :=
  [','].intercalate ((address.splitOn ',').map addressItem)

def natsAddress (address : String) : String := String.ofList (addressItems address.toList)

/-! ## Splitting and joining -/

theorem intercalate_append {xs ys : List (List Char)} (hx : xs ≠ []) (hy : ys ≠ []) :
    [','].intercalate (xs ++ ys) = [','].intercalate xs ++ ',' :: [','].intercalate ys := by
  induction xs with
  | nil => exact absurd rfl hx
  | cons x xs ih =>
    cases xs with
    | nil => simp [List.intercalate_cons_of_ne_nil hy]
    | cons x' xs =>
      have hstep := ih (List.cons_ne_nil _ _)
      rw [List.cons_append, List.intercalate_cons_of_ne_nil (by simp),
        List.intercalate_cons_of_ne_nil (List.cons_ne_nil _ _), hstep]
      simp

theorem addressItems_append (a b : List Char) :
    addressItems (a ++ ',' :: b) = addressItems a ++ ',' :: addressItems b := by
  rw [addressItems, List.splitOn_append_cons_self, List.map_append, intercalate_append]
  · rfl
  · simp
  · simp

theorem addressItems_single {a : List Char} (h : ',' ∉ a) : addressItems a = addressItem a := by
  rw [addressItems, List.splitOn_eq_singleton h]
  simp

/-! ## A URL with userinfo -/

def hostItem (scheme host : List Char) : List Char :=
  match Url.parseHost host with
  | none => invalidAddress
  | some h => serverLocation ⟨scheme, none, h, [], []⟩

theorem isSchemeName_of_mem {scheme : String} (h : scheme ∈ natsSchemes) :
    Url.IsSchemeName scheme.toList := by
  have hall : natsSchemes.all (fun s =>
      s.toList ≠ [] ∧ s.toList.all (fun c => 'a' ≤ c && c ≤ 'z')) = true := by decide
  have hs := List.all_eq_true.mp hall scheme h
  rw [decide_eq_true_eq] at hs
  refine ⟨hs.1, ?_⟩
  intro c hc
  simpa using List.all_eq_true.mp hs.2 c hc

section Item

variable {u h : List Char} (hu : Url.IsUserinfo u) (hh : ∀ c ∈ h, Url.hostChar c = true)

include hu hh in
theorem inClass_userinfo_host :
    ∀ c ∈ u ++ '@' :: h, Url.inClass "-._~!$&'()*+,;=:%[]@" c = true := by
  intro c hc
  rcases List.mem_append.mp hc with hc | hc
  · exact Url.inClass_of_subset (by decide) (hu.inClass c hc)
  · rcases List.mem_cons.mp hc with rfl | hc
    · decide
    · exact Url.inClass_of_subset (by decide) (hh c hc)

include hu hh in
theorem addressUrl_scheme {scheme : List Char} (hscheme : Url.IsSchemeName scheme) :
    addressUrl (scheme ++ "://".toList ++ u ++ '@' :: h)
      = scheme ++ "://".toList ++ u ++ '@' :: h := by
  have htrim : Trimmed (scheme ++ "://".toList ++ u ++ '@' :: h) := by
    refine trimmed_of_forall fun c hc => isUnicodeSpace_of_printable ?_
    rw [List.append_assoc, List.append_assoc] at hc
    rcases List.mem_append.mp hc with hc | hc
    · obtain ⟨hlo, hhi⟩ := hscheme.2 c hc
      have h1 : 97 ≤ c.toNat := Url.toNat_le_toNat hlo
      have h2 : c.toNat ≤ 122 := Url.toNat_le_toNat hhi
      omega
    · rcases List.mem_append.mp hc with hc | hc
      · have hall : "://".toList.all (fun c => 33 ≤ c.toNat && c.toNat < 127) = true := by decide
        simpa using List.all_eq_true.mp hall c hc
      · exact Url.printable_of_inClass (by decide) (inClass_userinfo_host hu hh c hc)
  have hinfix : "://".toList <:+: scheme ++ "://".toList ++ u ++ '@' :: h :=
    ⟨scheme, u ++ '@' :: h, by simp⟩
  rw [addressUrl, htrim.trimSpace_eq]
  exact if_pos hinfix

include hu hh in
theorem addressUrl_bare :
    addressUrl (u ++ '@' :: h) = "nats".toList ++ "://".toList ++ u ++ '@' :: h := by
  have hclass := inClass_userinfo_host hu hh
  have htrim : Trimmed (u ++ '@' :: h) :=
    trimmed_of_forall fun c hc =>
      isUnicodeSpace_of_printable (Url.printable_of_inClass (by decide) (hclass c hc))
  have hinfix : ¬ "://".toList <:+: u ++ '@' :: h := by
    intro hin
    have hslash : '/' ∈ u ++ '@' :: h := hin.subset (by decide)
    exact Url.not_mem_of_inClass (by decide) hclass hslash
  rw [addressUrl, htrim.trimSpace_eq]
  show (if "://".toList <:+: u ++ '@' :: h then _ else _) = _
  rw [if_neg hinfix]
  simp

include hu hh in
theorem addressItem_eq_hostItem {scheme part : List Char} (hscheme : Url.IsSchemeName scheme)
    (hpart : addressUrl part = scheme ++ "://".toList ++ u ++ '@' :: h) :
    addressItem part = hostItem scheme h := by
  obtain ⟨user, hparse⟩ := Url.parse_userinfo_host hscheme hu hh
  rw [addressItem, hpart, hparse, hostItem]
  cases Url.parseHost h with
  | none | some host => rfl

end Item

def hostItems (scheme host : List Char) : List Char :=
  match Url.cut ',' host with
  | (first, none) => hostItem scheme first
  | (first, some more) => hostItem scheme first ++ ',' :: addressItems more

theorem addressItems_userinfo (front : List Char) {scheme u h : List Char}
    (hscheme : Url.IsSchemeName scheme) (hu : Url.IsUserinfo u)
    (hh : ∀ c ∈ h, Url.hostChar c = true)
    (hurl : ∀ first, (∀ c ∈ first, Url.hostChar c = true) →
      addressUrl (front ++ u ++ '@' :: first) = scheme ++ "://".toList ++ u ++ '@' :: first)
    (hcomma : ',' ∉ front ++ u) :
    addressItems (front ++ u ++ '@' :: h) = hostItems scheme h := by
  have hitem : ∀ first, (∀ c ∈ first, Url.hostChar c = true) → ',' ∉ first →
      addressItems (front ++ u ++ '@' :: first) = hostItem scheme first := by
    intro first hfirst hno
    rw [addressItems_single, addressItem_eq_hostItem hu hfirst hscheme (hurl first hfirst)]
    simp only [List.mem_append, List.mem_cons, not_or] at hcomma ⊢
    exact ⟨hcomma, by decide, hno⟩
  unfold hostItems
  by_cases hmem : ',' ∈ h
  · obtain ⟨first, more, rfl, hno⟩ := List.eq_append_cons_of_mem hmem
    have hfirst := hitem first (fun c hc => hh c (List.mem_append_left _ hc)) hno
    rw [Url.cut_append hno]
    show _ = hostItem scheme first ++ ',' :: addressItems more
    rw [← hfirst, ← List.cons_append, ← List.append_assoc]
    exact addressItems_append _ _
  · rw [Url.cut_of_not_mem hmem]
    exact hitem h hh hmem

theorem addressItems_scheme {scheme u h : List Char} (hscheme : Url.IsSchemeName scheme)
    (hu : Url.IsUserinfo u) (hh : ∀ c ∈ h, Url.hostChar c = true) (hcomma : ',' ∉ u) :
    addressItems (scheme ++ "://".toList ++ u ++ '@' :: h) = hostItems scheme h := by
  refine addressItems_userinfo _ hscheme hu hh
    (fun first hfirst => addressUrl_scheme hu hfirst hscheme) ?_
  have hno : ',' ∉ scheme := by
    intro hmem
    exact absurd (hscheme.2 ',' hmem).1 (by decide)
  simp only [List.mem_append, not_or]
  exact ⟨⟨hno, by decide⟩, hcomma⟩

theorem addressItems_bare {u h : List Char} (hu : Url.IsUserinfo u)
    (hh : ∀ c ∈ h, Url.hostChar c = true) (hcomma : ',' ∉ u) :
    addressItems (u ++ '@' :: h) = hostItems "nats".toList h :=
  addressItems_userinfo [] (isSchemeName_of_mem (by decide)) hu hh
    (fun first hfirst => addressUrl_bare hu hfirst) hcomma

theorem count_comma_hostItem {scheme : String} (h : scheme ∈ natsSchemes) (host : List Char) :
    (hostItem scheme.toList host).count ','
      = (hostItem "nats".toList host).count ',' := by
  have hmem : natsSchemes.contains (String.ofList scheme.toList) = true := by
    rw [String.ofList_toList]
    exact List.contains_iff_mem.mpr h
  have hnats : natsSchemes.contains (String.ofList "nats".toList) = true := by decide
  have hcount : scheme.toList.count ',' = 0 := by
    have hall : natsSchemes.all (fun s => s.toList.count ',' = 0) = true := by decide
    simpa using List.all_eq_true.mp hall scheme h
  have hzero : "nats".toList.count ',' = 0 := by decide
  unfold hostItem
  cases Url.parseHost host with
  | none => rfl
  | some parsed =>
    -- the hostname does not depend on the scheme
    have hname : (⟨scheme.toList, none, parsed, [], []⟩ : Url).hostname
        = (⟨"nats".toList, none, parsed, [], []⟩ : Url).hostname := rfl
    simp only [serverLocation, hname, hmem, hnats, if_true]
    by_cases hbad : (⟨"nats".toList, none, parsed, [], []⟩ : Url).hostname = [] ∨
        parsed.any "@\\\r\n\t ".toList.contains = true
    · rw [if_pos hbad, if_pos hbad]
    · rw [if_neg hbad, if_neg hbad]
      simp only [List.count_append, hcount, hzero]

theorem count_comma_hostItems {scheme : String} (h : scheme ∈ natsSchemes) (host : List Char) :
    (hostItems scheme.toList host).count ','
      = (hostItems "nats".toList host).count ',' := by
  unfold hostItems
  split
  · exact count_comma_hostItem h _
  · rw [List.count_append, List.count_append, count_comma_hostItem h]

theorem count_comma_of_mem {scheme : String} (hscheme : scheme ∈ natsSchemes) {u h : List Char}
    (hu : Url.IsUserinfo u) (hh : ∀ c ∈ h, Url.hostChar c = true) (hcomma : ',' ∈ u) :
    (hostItems scheme.toList h).count ','
      < (addressItems (scheme.toList ++ "://".toList ++ u ++ '@' :: h)).count ',' := by
  -- the last comma: what follows it is an item of its own, with the host
  obtain ⟨after, before, hrev, hlast⟩ := List.eq_append_cons_of_mem (List.mem_reverse.mpr hcomma)
  have hsplit : u = before.reverse ++ ',' :: after.reverse := by
    rw [← List.reverse_reverse u, hrev]
    simp
  have hno : ',' ∉ after.reverse := fun hmem => hlast (List.mem_reverse.mp hmem)
  obtain ⟨-, hafter⟩ := hu.split (by decide) hsplit
  have htext : scheme.toList ++ "://".toList ++ u ++ '@' :: h
      = (scheme.toList ++ "://".toList ++ before.reverse)
        ++ ',' :: (after.reverse ++ '@' :: h) := by
    rw [hsplit]
    simp
  rw [htext, addressItems_append, addressItems_bare hafter hh hno, List.count_append,
    List.count_cons_self, count_comma_hostItems hscheme]
  omega

def serverUrl (scheme userinfo host : String) : String :=
  scheme ++ "://" ++ userinfo ++ "@" ++ host

theorem toList_serverUrl (scheme userinfo host : String) :
    (serverUrl scheme userinfo host).toList
      = scheme.toList ++ "://".toList ++ userinfo.toList ++ '@' :: host.toList := by
  simp [serverUrl]

/-- **Logged NATS addresses and credentials.**  Take a userinfo without a comma.
    Another one gives the same log line, for the same scheme and host, if and
    only if it has no comma either. -/
theorem natsAddress_eq_iff (scheme host u₁ u₂ : String) (hscheme : scheme ∈ natsSchemes)
    (hhost : ∀ c ∈ host.toList, Url.hostChar c = true) (hu₁ : Url.IsUserinfo u₁.toList)
    (hu₂ : Url.IsUserinfo u₂.toList) (hcomma : ',' ∉ u₁.toList) :
    natsAddress (serverUrl scheme u₁ host) = natsAddress (serverUrl scheme u₂ host) ↔
      ',' ∉ u₂.toList := by
  have hname := isSchemeName_of_mem hscheme
  have hfirst := addressItems_scheme hname hu₁ hhost hcomma
  unfold natsAddress
  rw [toList_serverUrl, toList_serverUrl, hfirst]
  constructor
  · intro heq hmem
    have hlt := count_comma_of_mem hscheme hu₂ hhost hmem
    rw [← String.ofList_injective heq] at hlt
    exact Nat.lt_irrefl _ hlt
  · intro hno
    rw [addressItems_scheme hname hu₂ hhost hno]

/-- Two passwords that are not seen. -/
theorem natsAddress_eq_iff_passwords :
    natsAddress (serverUrl "nats" "user:secret" "host:4222")
      = natsAddress (serverUrl "nats" "user:b;&c" "host:4222") :=
  (natsAddress_eq_iff "nats" "host:4222" "user:secret" "user:b;&c" (by decide)
    (List.all_eq_true.mp (by decide)) (.of_forall (List.all_eq_true.mp (by decide)))
    (.of_forall (List.all_eq_true.mp (by decide))) (by decide)).mpr (by decide)

/-- A token with a comma in it: its beginning is logged as a server. -/
theorem natsAddress_reveals_token :
    natsAddress (serverUrl "nats" "token" "host:4222") = "nats://host:4222" ∧
      natsAddress (serverUrl "nats" "s3cr3t,token" "host:4222")
        = "nats://s3cr3t,nats://host:4222" := by
  decide +kernel

end NexusGateway.Logging
