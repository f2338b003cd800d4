/-
What `Validate` lets through.  It compares the image with the allowlist as raw
text, so an entry can end in the middle of a path segment of the image: then
the image lives in another registry or namespace that merely begins with the
entry.  And it reads a version with `Sscanf`, which gives up at the first
component that does not fit an `int`, leaving it and the ones behind it 0: a
minimum read that way asks for less than it says.

For a manifest and an allowlist, these two are all that can go wrong, and each
of them does go wrong for some gateway version.
-/

import NexusGateway.Catalog.Manifest

namespace NexusGateway.Catalog

open Lib (isUnicodeSpace isUnicodeSpace_of_isDigit)

/-! ## Versions -/

structure Components where
  major : Nat
  minor : Nat
  patch : Nat
deriving DecidableEq, Repr

def decimal (ds : List Char) : Nat := ds.foldl (fun n c => 10 * n + (c.toNat - '0'.toNat)) 0

def IsNumber (ds : List Char) : Prop := ds ≠ [] ∧ ∀ c ∈ ds, c.isDigit = true

/-- `v` is a well-formed version, with or without a leading `v`, of components
    `c`. -/
def IsSemver (v : String) (c : Components) : Prop :=
  ∃ ds₁ ds₂ ds₃, IsNumber ds₁ ∧ IsNumber ds₂ ∧ IsNumber ds₃ ∧
    (v.toList = ds₁ ++ '.' :: (ds₂ ++ '.' :: ds₃) ∨
      v.toList = 'v' :: (ds₁ ++ '.' :: (ds₂ ++ '.' :: ds₃))) ∧
    c = ⟨decimal ds₁, decimal ds₂, decimal ds₃⟩

namespace Components

def le (x g : Components) : Prop :=
  x.major < g.major ∨ x.major = g.major ∧
    (x.minor < g.minor ∨ x.minor = g.minor ∧ x.patch ≤ g.patch)

def Fits (c : Components) : Prop := c.major < 2 ^ 63 ∧ c.minor < 2 ^ 63 ∧ c.patch < 2 ^ 63

instance (c : Components) : Decidable c.Fits := inferInstanceAs (Decidable (_ ∧ _))

/-- What `parseSemver` makes of them. -/
def scanned (c : Components) : Int × Int × Int :=
  if 2 ^ 63 ≤ c.major then (0, 0, 0)
  else if 2 ^ 63 ≤ c.minor then (c.major, 0, 0)
  else if 2 ^ 63 ≤ c.patch then (c.major, c.minor, 0)
  else (c.major, c.minor, c.patch)

theorem scanned_of_fits {c : Components} (h : c.Fits) :
    c.scanned = ((c.major : Int), (c.minor : Int), (c.patch : Int)) := by
  obtain ⟨h₁, h₂, h₃⟩ := h
  rw [scanned, if_neg (by omega), if_neg (by omega), if_neg (by omega)]

end Components

theorem ne_of_isDigit {d : Char} (hd : d.isDigit = true) :
    isUnicodeSpace d = false ∧ d ≠ '-' ∧ d ≠ '+' ∧ d ≠ 'v' := by
  refine ⟨isUnicodeSpace_of_isDigit hd, ?_, ?_, ?_⟩
  all_goals
    rintro rfl
    exact absurd hd (by decide)

theorem foldl_digits {ds : List Char} (hds : ∀ c ∈ ds, c.isDigit = true) (n : Nat) :
    ds.foldl (fun (n : Int) c => 10 * n + ((c.toNat : Int) - ('0'.toNat : Int))) n =
      ((ds.foldl (fun n c => 10 * n + (c.toNat - '0'.toNat)) n : Nat) : Int) := by
  induction ds generalizing n with
  | nil => rfl
  | cons c ds ih =>
    have hc : '0'.toNat ≤ c.toNat := by
      have h := hds c (List.mem_cons_self ..)
      rw [Char.isDigit, Bool.and_eq_true, decide_eq_true_eq] at h
      exact h.1
    have hstep : 10 * (n : Int) + ((c.toNat : Int) - ('0'.toNat : Int)) =
        ((10 * n + (c.toNat - '0'.toNat) : Nat) : Int) := by omega
    rw [List.foldl_cons, List.foldl_cons, hstep]
    exact ih (fun c hc => hds c (List.mem_cons_of_mem _ hc)) _

theorem scanInt_number {ds rest : List Char} (hds : IsNumber ds)
    (hrest : ∀ c ∈ rest.head?, c.isDigit = false) :
    scanInt (ds ++ rest) =
      if 2 ^ 63 ≤ decimal ds then none else some ((decimal ds : Int), rest) := by
  obtain ⟨hne, hall⟩ := hds
  have htake : (ds ++ rest).takeWhile Char.isDigit = ds := by
    rw [List.takeWhile_append_of_pos hall]
    cases rest with
    | nil => simp
    | cons c rest =>
      have hc := hrest c rfl
      rw [List.takeWhile_cons_of_neg (by simp [hc]), List.append_nil]
  have hvalue : ds.foldl (fun (n : Int) c => 10 * n + ((c.toNat : Int) - ('0'.toNat : Int)))
      ((0 : Nat) : Int) = (decimal ds : Int) := foldl_digits hall 0
  have hempty : ds.isEmpty = false := by simpa using hne
  obtain ⟨d, tail, rfl⟩ := List.exists_cons_of_ne_nil hne
  obtain ⟨hblank, hminus, hplus, -⟩ := ne_of_isDigit (hall d (List.mem_cons_self ..))
  have hdrop : (d :: tail ++ rest).dropWhile (fun c => isUnicodeSpace c && c ≠ '\n') =
      d :: tail ++ rest := List.dropWhile_cons_of_neg (by simp [hblank])
  simp only [scanInt, hdrop]
  -- the first character is a digit, so there is no sign
  split
  · next h => exact absurd (List.cons.inj h).1 hminus
  · next h => exact absurd (List.cons.inj h).1 hplus
  · simp only [htake, hvalue, hempty, Bool.false_eq_true, if_false, Bool.false_or, Bool.or_eq_true,
      decide_eq_true_eq, List.drop_left]
    by_cases hbig : 2 ^ 63 ≤ decimal (d :: tail)
    · rw [if_pos hbig, if_pos (by omega)]
    · rw [if_neg hbig, if_neg (by omega)]

theorem parseSemver_of_isSemver {v : String} {c : Components} (h : IsSemver v c) :
    parseSemver v = c.scanned := by
  obtain ⟨ds₁, ds₂, ds₃, h₁, h₂, h₃, htext, rfl⟩ := h
  have hdot : ∀ (l : List Char), ∀ c ∈ ('.' :: l).head?, c.isDigit = false := by
    intro l c hc
    cases hc
    rfl
  have hlast : scanInt ds₃ =
      if 2 ^ 63 ≤ decimal ds₃ then none else some ((decimal ds₃ : Int), []) := by
    have h := @scanInt_number ds₃ [] h₃ nofun
    rw [List.append_nil] at h
    exact h
  have hscan : parseSemver v = scanSemver (ds₁ ++ '.' :: (ds₂ ++ '.' :: ds₃)) := by
    unfold parseSemver
    rcases htext with htext | htext
    · obtain ⟨d, tail, rfl⟩ := List.exists_cons_of_ne_nil h₁.1
      have hv := (ne_of_isDigit (h₁.2 d (List.mem_cons_self ..))).2.2.2
      rw [htext]
      split
      · next h => exact absurd (List.cons.inj h).1 hv
      · rfl
    · rw [htext]
      rfl
  rw [hscan, scanSemver, scanInt_number h₁ (hdot _), Components.scanned]
  by_cases b₁ : 2 ^ 63 ≤ decimal ds₁
  · rw [if_pos b₁, if_pos b₁]
  · rw [if_neg b₁, if_neg b₁]
    simp only [scanDot, Option.bind_some, scanInt_number h₂ (hdot _)]
    by_cases b₂ : 2 ^ 63 ≤ decimal ds₂
    · rw [if_pos b₂, if_pos b₂]
    · rw [if_neg b₂, if_neg b₂]
      simp only [Option.bind_some, hlast]
      by_cases b₃ : 2 ^ 63 ≤ decimal ds₃
      · rw [if_pos b₃, if_pos b₃]
      · rw [if_neg b₃, if_neg b₃]

theorem semverLess_iff (v w : String) :
    semverLess v w = true ↔ (parseSemver v).1 < (parseSemver w).1 ∨
      (parseSemver v).1 = (parseSemver w).1 ∧ ((parseSemver v).2.1 < (parseSemver w).2.1 ∨
        (parseSemver v).2.1 = (parseSemver w).2.1 ∧ (parseSemver v).2.2 < (parseSemver w).2.2) := by
  rcases hv : parseSemver v with ⟨a₁, a₂, a₃⟩
  rcases hw : parseSemver w with ⟨b₁, b₂, b₃⟩
  simp only [semverLess, hv, hw]
  split_ifs with h₁ h₂
  all_goals
    rw [decide_eq_true_eq]
    omega

theorem semverLess_of_parseSemver_eq {v w : String} (h : parseSemver v = parseSemver w) :
    semverLess v w = false := by
  rw [Bool.eq_false_iff, ne_eq, semverLess_iff, h]
  omega

theorem le_of_not_semverLess {v w : String} {g x : Components} (hv : IsSemver v g)
    (hw : IsSemver w x) (hfits : x.Fits) (h : semverLess v w = false) : x.le g := by
  rw [Bool.eq_false_iff, ne_eq, semverLess_iff, parseSemver_of_isSemver hv,
    parseSemver_of_isSemver hw, Components.scanned_of_fits hfits] at h
  obtain ⟨h₁, h₂, h₃⟩ := hfits
  unfold Components.le
  unfold Components.scanned at h
  split_ifs at h
  all_goals
    simp only at h
    omega

theorem isNumber_zero : IsNumber ['0'] := by
  simp [IsNumber]

theorem isSemver_ofList {ds₁ ds₂ ds₃ : List Char} (h₁ : IsNumber ds₁) (h₂ : IsNumber ds₂)
    (h₃ : IsNumber ds₃) :
    IsSemver (String.ofList (ds₁ ++ '.' :: (ds₂ ++ '.' :: ds₃)))
      ⟨decimal ds₁, decimal ds₂, decimal ds₃⟩ :=
  ⟨ds₁, ds₂, ds₃, h₁, h₂, h₃, Or.inl String.toList_ofList, rfl⟩

theorem exists_lower {v : String} {x : Components} (hv : IsSemver v x) (hbig : ¬ x.Fits) :
    ∃ w g, IsSemver w g ∧ semverLess w v = false ∧ ¬ x.le g := by
  have hparse := parseSemver_of_isSemver hv
  obtain ⟨ds₁, ds₂, ds₃, h₁, h₂, h₃, -, rfl⟩ := hv
  have hzero : decimal ['0'] = 0 := rfl
  have hsmall : decimal ['0'] < 2 ^ 63 := by decide
  -- keep the components before the first one that does not fit, and end in zeros
  by_cases b₁ : 2 ^ 63 ≤ decimal ds₁
  · have hw := isSemver_ofList isNumber_zero isNumber_zero isNumber_zero
    refine ⟨_, _, hw, semverLess_of_parseSemver_eq ?_, ?_⟩
    · rw [hparse, parseSemver_of_isSemver hw, Components.scanned_of_fits (by decide),
        Components.scanned, if_pos b₁]
      rfl
    · simp only [Components.le, hzero]
      omega
  by_cases b₂ : 2 ^ 63 ≤ decimal ds₂
  · have hw := isSemver_ofList h₁ isNumber_zero isNumber_zero
    refine ⟨_, _, hw, semverLess_of_parseSemver_eq ?_, ?_⟩
    · have hfits : Components.Fits ⟨decimal ds₁, decimal ['0'], decimal ['0']⟩ :=
        ⟨Nat.lt_of_not_le b₁, hsmall, hsmall⟩
      rw [hparse, parseSemver_of_isSemver hw, Components.scanned_of_fits hfits,
        Components.scanned, if_neg b₁, if_pos b₂]
      rfl
    · simp only [Components.le, hzero]
      omega
  by_cases b₃ : 2 ^ 63 ≤ decimal ds₃
  · have hw := isSemver_ofList h₁ h₂ isNumber_zero
    refine ⟨_, _, hw, semverLess_of_parseSemver_eq ?_, ?_⟩
    · have hfits : Components.Fits ⟨decimal ds₁, decimal ds₂, decimal ['0']⟩ :=
        ⟨Nat.lt_of_not_le b₁, Nat.lt_of_not_le b₂, hsmall⟩
      rw [hparse, parseSemver_of_isSemver hw, Components.scanned_of_fits hfits,
        Components.scanned, if_neg b₁, if_neg b₂, if_pos b₃]
      rfl
    · simp only [Components.le, hzero]
      omega
  · refine absurd ?_ hbig
    exact ⟨Nat.lt_of_not_le b₁, Nat.lt_of_not_le b₂, Nat.lt_of_not_le b₃⟩

/-! ## Digests and registries -/

def IsDigest (digest : String) : Prop :=
  ∃ hex : String, digest = "sha256:" ++ hex ∧ hex.length = 64 ∧
    ∀ c ∈ hex.toList, '0' ≤ c ∧ c ≤ '9' ∨ 'a' ≤ c ∧ c ≤ 'f'

theorem isDigest_of_digestPattern {digest : String} (h : digestPattern digest = true) :
    IsDigest digest := by
  unfold digestPattern at h
  split at h
  · next hex htext =>
    rw [Bool.and_eq_true, beq_iff_eq, List.all_eq_true] at h
    refine ⟨String.ofList hex, ?_, ?_, ?_⟩
    · apply String.toList_injective
      rw [htext, String.toList_append, @String.toList_ofList hex]
      rfl
    · rw [String.length_ofList]
      exact h.1
    · intro c hc
      rw [String.toList_ofList] at hc
      have hhex := h.2 c hc
      simp only [isHexDigit, Char.isDigit, Bool.or_eq_true, Bool.and_eq_true,
        decide_eq_true_eq] at hhex
      exact hhex
  · cases h

def InRegistry (a image : String) : Prop := image = a ∨ (a ++ "/").toList <+: image.toList

/-- The image begins with the entry, which ends inside one of its path segments. -/
def CutsSegment (a image : String) : Prop :=
  ∃ c rest, image.toList = a.toList ++ c :: rest ∧ c ≠ '/'

theorem inRegistry_iff {a image : String} :
    InRegistry a image ↔ a.toList <+: image.toList ∧ ¬ CutsSegment a image := by
  have happend : (a ++ "/").toList = a.toList ++ ['/'] := String.toList_append
  constructor
  · rintro (rfl | ⟨rest, hrest⟩)
    · refine ⟨List.prefix_refl _, ?_⟩
      rintro ⟨c, rest, htext, -⟩
      have hlen := congrArg List.length htext
      simp at hlen
    · rw [happend, List.append_assoc, List.singleton_append] at hrest
      refine ⟨⟨'/' :: rest, hrest⟩, ?_⟩
      rintro ⟨c, rest', htext, hc⟩
      rw [← hrest, List.append_cancel_left_eq, List.cons.injEq] at htext
      exact hc htext.1.symm
  · rintro ⟨⟨rest, hrest⟩, hcut⟩
    cases rest with
    | nil =>
      rw [List.append_nil] at hrest
      exact Or.inl (String.toList_injective hrest.symm)
    | cons c rest =>
      have hc : c = '/' := by
        by_contra hne
        exact hcut ⟨c, rest, hrest.symm, hne⟩
      refine Or.inr ⟨rest, ?_⟩
      rw [happend, List.append_assoc, List.singleton_append, ← hc]
      exact hrest

/-! ## What passes -/

structure Sound (m : Manifest) (allowed : List String) (gatewayVersion : String) : Prop where
  digest : IsDigest m.digest
  registry : ∃ a ∈ allowed, InRegistry a m.image
  version : ∀ g x, IsSemver gatewayVersion g → IsSemver m.minGatewayVersion x → x.le g

theorem not_isSemver_empty (x : Components) : ¬ IsSemver "" x := by
  rintro ⟨ds₁, ds₂, ds₃, -, -, -, h, -⟩
  have hempty : "".toList = [] := rfl
  rw [hempty] at h
  rcases h with h | h
  · have hlen := congrArg List.length h
    simp at hlen
  · cases h

/-- For every manifest and allowlist: what passes `Validate` is sound for every
    gateway version exactly if, for a manifest with a well-formed digest and an
    image that begins with an allowlist entry, not every such entry ends inside a
    path segment of the image, and a well-formed minimum version has only
    components that fit an `int`. -/
theorem validate_sound_iff (m : Manifest) (allowed : List String) :
    (∀ gatewayVersion, m.validate allowed gatewayVersion = .ok () →
      Sound m allowed gatewayVersion) ↔
    (digestPattern m.digest = true → registryAllowed m.image allowed = true →
      ¬ (∀ a ∈ allowed, a.toList <+: m.image.toList → CutsSegment a m.image) ∧
      ∀ x, IsSemver m.minGatewayVersion x → x.Fits) := by
  constructor
  · intro h hdigest hregistry
    have hpass : ∀ v, semverLess v m.minGatewayVersion = false → Sound m allowed v := by
      intro v hv
      exact h v (Manifest.validate_eq_ok_iff.mpr ⟨hdigest, hregistry, Or.inr hv⟩)
    constructor
    · -- a gateway of exactly the minimum version passes
      intro hcut
      obtain ⟨a, ha, hin⟩ := (hpass _ (semverLess_of_parseSemver_eq rfl)).registry
      obtain ⟨hstarts, hwhole⟩ := inRegistry_iff.mp hin
      exact hwhole (hcut a ha hstarts)
    · intro x hx
      by_contra hbig
      obtain ⟨w, g, hw, hless, hlower⟩ := exists_lower hx hbig
      exact hlower ((hpass w hless).version g x hw hx)
  · intro h v hv
    obtain ⟨hdigest, hregistry, hversion⟩ := Manifest.validate_eq_ok_iff.mp hv
    obtain ⟨hcut, hfits⟩ := h hdigest hregistry
    refine ⟨isDigest_of_digestPattern hdigest, ?_, ?_⟩
    · by_contra hnone
      refine hcut fun a ha hstarts => ?_
      by_contra hwhole
      exact hnone ⟨a, ha, inRegistry_iff.mpr ⟨hstarts, hwhole⟩⟩
    · intro g x hg hx
      rcases hversion with hmin | hless
      · rw [hmin] at hx
        exact absurd hx (not_isSemver_empty x)
      · exact le_of_not_semverLess hg hx (hfits x hx) hless

def zeroDigest : String :=
  "sha256:0000000000000000000000000000000000000000000000000000000000000000"

/-- An image of another namespace that begins with the entry passes; so does a
    gateway `1.0.0` where the minimum is the major version `2^63`. -/
theorem validate_unsound :
    (∃ m : Manifest, m.validate ["ghcr.io/nexus"] "1.0.0" = .ok () ∧
      m.image = "ghcr.io/nexus-evil/opcua" ∧
      ¬ ∃ a ∈ ["ghcr.io/nexus"], InRegistry a m.image) ∧
    (∃ m : Manifest, ∃ g x, m.validate ["ghcr.io/nexus"] "1.0.0" = .ok () ∧
      m.minGatewayVersion = "9223372036854775808.0.0" ∧ IsSemver "1.0.0" g ∧
      IsSemver m.minGatewayVersion x ∧ ¬ x.le g) := by
  refine ⟨⟨⟨"opcua", "1.0.0", "ghcr.io/nexus-evil/opcua", zeroDigest, "", {}, false⟩, ?_, rfl, ?_⟩,
    ⟨⟨"opcua", "1.0.0", "ghcr.io/nexus/opcua", zeroDigest, "9223372036854775808.0.0", {}, false⟩,
      ⟨1, 0, 0⟩, ⟨9223372036854775808, 0, 0⟩, ?_, rfl, ?_, ?_, ?_⟩⟩
  · decide
  · rintro ⟨a, ha, hin⟩
    rw [List.mem_singleton] at ha
    subst ha
    refine (inRegistry_iff.mp hin).2 ⟨'-', "evil/opcua".toList, ?_, by decide⟩
    decide
  · decide
  · exact ⟨['1'], ['0'], ['0'], by simp [IsNumber], by simp [IsNumber], by simp [IsNumber],
      Or.inl rfl, rfl⟩
  · have hdigits : ("9223372036854775808".toList.all Char.isDigit) = true := by decide
    exact ⟨"9223372036854775808".toList, ['0'], ['0'], ⟨by decide, List.all_eq_true.mp hdigits⟩,
      isNumber_zero, isNumber_zero, Or.inl (by decide), by decide⟩
  · simp [Components.le]

end NexusGateway.Catalog
