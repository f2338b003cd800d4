/-
`internal/catalog/manifest.go`: an entry of the Connector Catalog and the
check every install and update makes first.
-/

import Mathlib.Algebra.Ring.Int.Defs
import Mathlib.Algebra.Ring.Nat
import NexusGateway.Lib.Text

namespace NexusGateway.Catalog

open Lib

structure Permissions where
  network : List String := []
  mounts : List String := []
deriving DecidableEq

structure Manifest where
  name : String
  version : String := ""
  image : String
  digest : String
  minGatewayVersion : String := ""
  permissions : Permissions := {}
  signatureRequired : Bool := false
deriving DecidableEq

inductive ManifestError where
  | noDigest
  | invalidDigest (digest : String)
  | registryNotAllowed (image : String)
  | versionTooOld (gateway required : String)
deriving DecidableEq

/-- `%q`, for texts without characters that need an escape. -/
def quote (s : String) : String := "\"" ++ s ++ "\""

def ManifestError.text : ManifestError → String
  | noDigest => "catalog: manifest must specify a digest (sha256:…)"
  | invalidDigest digest => "catalog: digest has invalid format: " ++ quote digest
  | registryNotAllowed image =>
    "catalog: image registry is not in the allowlist: image " ++ quote image
  | versionTooOld gateway required =>
    "catalog: gateway version is older than manifest min_gateway_version: gateway " ++ gateway ++
      " < required " ++ required

def isHexDigit (c : Char) : Bool := c.isDigit || ('a' ≤ c && c ≤ 'f')

/-- `digestPattern`: `sha256:` and 64 hex digits, nothing else. -/
def digestPattern (digest : String) : Bool :=
  match digest.toList with
  | 's' :: 'h' :: 'a' :: '2' :: '5' :: '6' :: ':' :: hex => hex.length == 64 && hex.all isHexDigit
  | _ => false

def registryAllowed (image : String) (allowed : List String) : Bool :=
  allowed.any fun a => a.toList.isPrefixOf image.toList

/-- `%d` of `Sscanf`: spaces other than a newline, a sign, and digits that fit an `int`. -/
def scanInt (input : List Char) : Option (Int × List Char) :=
  let input := input.dropWhile fun c => isUnicodeSpace c && c ≠ '\n'
  let (negative, input) :=
    match input with
    | '-' :: rest => (true, rest)
    | '+' :: rest => (false, rest)
    | rest => (false, rest)
  let digits := input.takeWhile Char.isDigit
  let magnitude : Int := digits.foldl (fun n c => 10 * n + (c.toNat - '0'.toNat)) (0 : Nat)
  let value := if negative then -magnitude else magnitude
  if digits.isEmpty || value < -2 ^ 63 || 2 ^ 63 ≤ value then
    none
  else
    some (value, input.drop digits.length)

def scanDot : List Char → Option (List Char)
  | '.' :: rest => some rest
  | _ => none

/-- `Sscanf` with `%d.%d.%d`: what the scan did not reach stays 0. -/
def scanSemver (input : List Char) : Int × Int × Int :=
  match scanInt input with
  | none => (0, 0, 0)
  | some (major, rest) =>
    match (scanDot rest).bind scanInt with
    | none => (major, 0, 0)
    | some (minor, rest) =>
      match (scanDot rest).bind scanInt with
      | none => (major, minor, 0)
      | some (patch, _) => (major, minor, patch)

def parseSemver (v : String) : Int × Int × Int :=
  match v.toList with
  | 'v' :: rest => scanSemver rest
  | rest => scanSemver rest

def semverLess (a b : String) : Bool :=
  let (a₁, a₂, a₃) := parseSemver a
  let (b₁, b₂, b₃) := parseSemver b
  if a₁ ≠ b₁ then a₁ < b₁ else if a₂ ≠ b₂ then a₂ < b₂ else a₃ < b₃

namespace Manifest

def imageRef (m : Manifest) : String := m.image ++ "@" ++ m.digest

def validate (m : Manifest) (allowedRegistries : List String) (gatewayVersion : String) :
    Except ManifestError Unit :=
  if m.digest = "" then
    .error .noDigest
  else if !digestPattern m.digest then
    .error (.invalidDigest m.digest)
  else if !registryAllowed m.image allowedRegistries then
    .error (.registryNotAllowed m.image)
  else if m.minGatewayVersion ≠ "" ∧ semverLess gatewayVersion m.minGatewayVersion then
    .error (.versionTooOld gatewayVersion m.minGatewayVersion)
  else
    .ok ()

/-- A manifest is accepted exactly if its digest is well formed, its image begins with
    an allowlisted entry, and the gateway is not older than it asks for. -/
theorem validate_eq_ok_iff {m : Manifest} {allowed : List String} {version : String} :
    m.validate allowed version = .ok () ↔
      digestPattern m.digest = true ∧ registryAllowed m.image allowed = true ∧
        (m.minGatewayVersion = "" ∨ semverLess version m.minGatewayVersion = false) := by
  have hempty : digestPattern m.digest = true → m.digest ≠ "" := by
    intro h hd
    rw [hd] at h
    exact absurd h (by decide)
  rw [validate]
  constructor
  · intro h
    split_ifs at h with hd hp hr hv
    refine ⟨by simpa using hp, by simpa using hr, ?_⟩
    by_cases hmin : m.minGatewayVersion = ""
    · exact Or.inl hmin
    · exact Or.inr (Bool.not_eq_true _ ▸ fun hlt => hv ⟨hmin, hlt⟩)
  · rintro ⟨hp, hr, hv⟩
    have hv' : ¬ (m.minGatewayVersion ≠ "" ∧ semverLess version m.minGatewayVersion = true) := by
      rintro ⟨hne, hlt⟩
      rcases hv with hv | hv
      · exact hne hv
      · rw [hv] at hlt
        cases hlt
    simp [hempty hp, hp, hr, hv']

end Manifest

/-- `v1.10.0` is not older than `1.9`. -/
example : semverLess "v1.10.0" "1.9" = false := by decide

end NexusGateway.Catalog
