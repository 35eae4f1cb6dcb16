import HonoWarden.Credential.KdfPopulation
import HonoWarden.Session.Lookup
import HonoWarden.Weighted.Choice

/-!
# Key derivation settings before a login

Model of the selection in `src/domain/prelogin.ts` and of `findPreloginKdfContext`
(`src/repositories/auth-repository.ts`).

An account is answered with its own settings. An unknown address is answered with settings chosen
from the population by a keyed digest of the address, so that the answers do not tell which
addresses exist. The digest is a parameter of the model. A row whose count would take the total
beyond the safe integers is passed over.

Results:
* `serializeKdf_injective`: settings are told apart by their texts;
* **`preloginKdf_exact`**: while the counts sum to a safe integer, the selection never throws,
  chooses each settings for as many residues as accounts hold it, whatever the order and the
  splitting of the rows, and every account with readable settings is answered with these.
-/

namespace HonoWarden

open Relational

/-- A range of `preloginKdfPolicy`. -/
structure KdfRange where
  min : Int
  max : Int

/-- `preloginKdfPolicy.pbkdf2Iterations`. -/
def pbkdf2Iterations : KdfRange := ⟨5000, 2000000⟩

/-- `preloginKdfPolicy.argon2Iterations`. -/
def argon2Iterations : KdfRange := ⟨2, 10⟩

/-- `preloginKdfPolicy.argon2Memory`. -/
def argon2Memory : KdfRange := ⟨16, 1024⟩

/-- `preloginKdfPolicy.argon2Parallelism`. -/
def argon2Parallelism : KdfRange := ⟨1, 16⟩

/-- `withinRange`. -/
def withinRange (value : Int) (range : KdfRange) : Bool :=
  range.min ≤ value && value ≤ range.max

/-- `clientReadablePreloginKdf`. -/
def clientReadablePreloginKdf (generation : User) : Option AccountCredentialKdf :=
  match accountCredentialKdfFromStoredGeneration generation with
  | none => none
  | some kdf =>
    if kdf.kdfType = 0 then
      if withinRange kdf.iterations pbkdf2Iterations then some kdf else none
    else
      match kdf.memory, kdf.parallelism with
      | some memory, some parallelism =>
        if withinRange kdf.iterations argon2Iterations && withinRange memory argon2Memory &&
            withinRange parallelism argon2Parallelism then some kdf
        else none
      | _, _ => none

/-- `PreloginKdfDistributionEntry`. -/
structure PreloginKdfDistributionEntry extends KdfTuple where
  accountCount : Nat
  deriving DecidableEq, Repr

/-- The generation the settings of an entry are read as. -/
def KdfTuple.generation (t : KdfTuple) : User where
  id := ""
  emailNormalized := "distribution@invalid.example"
  kdfAlgorithm := t.kdfAlgorithm
  kdfIterations := t.kdfIterations
  kdfMemory := t.kdfMemory
  kdfParallelism := t.kdfParallelism

/-- `PreloginKdfContext`. -/
structure PreloginKdfContext where
  target : Option User
  distribution : List PreloginKdfDistributionEntry
  deriving DecidableEq, Repr

/-! ## Normalizing the distribution -/

/-- `serializeKdf`. -/
def serializeKdf (kdf : AccountCredentialKdf) : String :=
  String.intercalate ":" [kdf.kdfType.repr, kdf.iterations.repr,
    (kdf.memory.map Int.repr).getD "", (kdf.parallelism.map Int.repr).getD ""]

/-- `WeightedKdf`: settings and their account count. -/
abbrev WeightedKdf := Weighted.Entry AccountCredentialKdf

/-- The map under construction and the running total. -/
structure KdfGathering where
  byKdf : List WeightedKdf := []
  total : Nat := 0

/-- The body of the loop of `normalizeStoredKdfDistribution`. -/
def KdfGathering.gather (s : KdfGathering) (entry : PreloginKdfDistributionEntry) :
    KdfGathering :=
  match clientReadablePreloginKdf entry.generation with
  | none => s
  | some kdf =>
    if !isSafeInteger entry.accountCount || entry.accountCount < 1 ||
        !isSafeInteger (s.total + entry.accountCount : Nat) then s
    else if (s.byKdf.find? fun w => serializeKdf w.value = serializeKdf kdf).any
        (fun existing => !isSafeInteger (existing.count + entry.accountCount : Nat)) then s
    else
      { byKdf := Weighted.add serializeKdf s.byKdf kdf entry.accountCount
        total := s.total + entry.accountCount }

/-- `compareSerializedKdf`, not positive. -/
def serializedKdfLe (left right : AccountCredentialKdf) : Bool :=
  serializeKdf left ≤ serializeKdf right

/-- `normalizeStoredKdfDistribution`. -/
def normalizeStoredKdfDistribution (entries : List PreloginKdfDistributionEntry) :
    List WeightedKdf :=
  (entries.foldl KdfGathering.gather {}).byKdf.mergeSort fun left right =>
    serializedKdfLe left.value right.value

/-! ## The answer -/

def syntheticKdfDomain : String := "honowarden:prelogin-kdf:v3:"

/-- `defaultAccountKdf`. -/
def defaultAccountKdf : AccountCredentialKdf where
  kdfType := 0
  iterations := 600000
  memory := none
  parallelism := none

/-- `ProjectedPreloginKdfResponse`. -/
structure ProjectedPreloginKdfResponse where
  kdf : Nat
  kdfIterations : Int
  kdfMemory : Option Int
  kdfParallelism : Option Int
  kdfSettings : AccountCredentialKdf
  salt : String
  deriving DecidableEq, Repr

def AccountCredentialKdf.response (kdf : AccountCredentialKdf) (emailNormalized : String) :
    ProjectedPreloginKdfResponse where
  kdf := kdf.kdfType
  kdfIterations := kdf.iterations
  kdfMemory := kdf.memory
  kdfParallelism := kdf.parallelism
  kdfSettings := kdf
  salt := emailNormalized

section Digest

/- HMAC-SHA-256 of a message under a secret. -/
variable (hmac : String → String → BitVec 256)

/-- `deriveSyntheticKdf`; the residue is that of the first eight bytes of the digest. -/
def deriveSyntheticKdf (emailNormalized secret : String) (distribution : List WeightedKdf) :
    Except String AccountCredentialKdf :=
  let view := (hmac secret (syntheticKdfDomain ++ emailNormalized)).toNat / 2 ^ 192
  if Weighted.total distribution = 0 then .error "Division by zero"
  else
    match Weighted.pick distribution (view % Weighted.total distribution) with
    | some kdf => .ok kdf
    | none => .error "prelogin KDF distribution selection failed"

/-- The distribution a synthetic selection draws from. -/
def syntheticDistribution (entries : List PreloginKdfDistributionEntry) : List WeightedKdf :=
  if normalizeStoredKdfDistribution entries = [] then [⟨defaultAccountKdf, 1⟩]
  else normalizeStoredKdfDistribution entries

/-- `buildPreloginKdfResponse`. -/
def buildPreloginKdfResponse (emailNormalized : String) (context : PreloginKdfContext)
    (secret : String) : Except String (Option ProjectedPreloginKdfResponse) :=
  if context.target.any fun target => target.emailNormalized ≠ emailNormalized then .ok none
  else
    match context.target, context.target.bind clientReadablePreloginKdf with
    | some _, none => .ok none
    | _, some targetKdf =>
      if (normalizeStoredKdfDistribution context.distribution).any
          fun entry => serializeKdf entry.value = serializeKdf targetKdf then
        (deriveSyntheticKdf hmac emailNormalized secret
          (syntheticDistribution context.distribution)).map
            fun _ => some (targetKdf.response emailNormalized)
      else .ok none
    | none, none =>
      (deriveSyntheticKdf hmac emailNormalized secret
        (syntheticDistribution context.distribution)).map
          fun syntheticKdf => some (syntheticKdf.response emailNormalized)

end Digest

/-! ## Reading the population -/

/-- The WHERE of `valid_population`. -/
def KdfPopulationKey.Readable (k : KdfPopulationKey) : Prop :=
  k.kdfAlgorithm = "pbkdf2-sha256" ∧ withinRange k.kdfIterations pbkdf2Iterations ∧
      k.kdfMemoryIsNull = true ∧ k.kdfParallelismIsNull = true ∨
    k.kdfAlgorithm = "argon2id" ∧ withinRange k.kdfIterations argon2Iterations ∧
      k.kdfMemoryIsNull = false ∧ withinRange k.kdfMemory argon2Memory ∧
      k.kdfParallelismIsNull = false ∧ withinRange k.kdfParallelism argon2Parallelism

instance : DecidablePred KdfPopulationKey.Readable := fun _ =>
  inferInstanceAs (Decidable (_ ∨ _))

/-- The ORDER BY; NULL comes first. -/
def KdfTuple.before (a b : KdfTuple) : Bool :=
  ((compare a.kdfAlgorithm b.kdfAlgorithm).then ((compare a.kdfIterations b.kdfIterations).then
    ((compare a.kdfMemory b.kdfMemory).then (compare a.kdfParallelism b.kdfParallelism)))).isLE

def AccountKdfPopulation.entry (p : AccountKdfPopulation) : PreloginKdfDistributionEntry where
  toKdfTuple := p.key.tuple
  accountCount := p.accountCount

/-- `findPreloginKdfContext`. -/
def findPreloginKdfContext (emailNormalized : String) (db : KdfTables) : PreloginKdfContext where
  target := db.users.rows.find? fun u => u.emailNormalized = emailNormalized
  distribution := ((db.accountKdfPopulation.rows.filter fun p => p.key.Readable).map
    AccountKdfPopulation.entry).mergeSort fun a b => a.before b.toKdfTuple

/-! ## Texts of settings -/

theorem colon_notMem_natRepr (n : Nat) : ':' ∉ n.repr.toList := by
  intro h
  rw [Nat.toList_repr] at h
  exact absurd (Nat.isDigit_of_mem_toDigits (by decide) (by decide) h) (by decide)

theorem colon_notMem_intRepr (n : Int) : ':' ∉ n.repr.toList := by
  cases n with
  | ofNat m => exact colon_notMem_natRepr m
  | negSucc m =>
    change ':' ∉ ("-" ++ (m + 1).repr).toList
    rw [String.toList_append, List.mem_append, not_or]
    exact ⟨by decide, colon_notMem_natRepr _⟩

/-- `value ?? ''`. -/
theorem optionalRepr_injective {x y : Option Int}
    (h : (x.map Int.repr).getD "" = (y.map Int.repr).getD "") : x = y := by
  have hne : ∀ n : Int, n.repr ≠ "" := by
    intro n hn
    have hlist := congrArg String.toList hn
    cases n with
    | ofNat m =>
      change m.repr.toList = [] at hlist
      rw [Nat.toList_repr] at hlist
      exact Nat.toDigits_ne_nil hlist
    | negSucc m =>
      change ("-" ++ (m + 1).repr).toList = [] at hlist
      rw [String.toList_append] at hlist
      exact absurd (List.append_eq_nil_iff.mp hlist).1 (by decide)
  cases x with
  | none =>
    cases y with
    | none => rfl
    | some n => exact absurd h.symm (hne n)
  | some m =>
    cases y with
    | none => exact absurd h (hne m)
    | some n => exact congrArg some (Int.repr_inj.mp h)

theorem serializeKdf_toList (kdf : AccountCredentialKdf) : (serializeKdf kdf).toList =
    kdf.kdfType.repr.toList ++ ':' :: (kdf.iterations.repr.toList ++ ':' ::
      (((kdf.memory.map Int.repr).getD "").toList ++ ':' ::
        ((kdf.parallelism.map Int.repr).getD "").toList)) := by
  unfold serializeKdf
  rw [String.toList_intercalate]
  simp [List.intercalate]

theorem colon_notMem_optional (x : Option Int) : ':' ∉ ((x.map Int.repr).getD "").toList := by
  cases x with
  | none => decide
  | some n => exact colon_notMem_intRepr n

/-- A text up to its first colon, and the rest. -/
theorem split_colon {x y z w : List Char} (hx : ':' ∉ x) (hy : ':' ∉ y)
    (h : x ++ ':' :: z = y ++ ':' :: w) : x = y ∧ z = w := by
  induction x generalizing y with
  | nil =>
    cases y with
    | nil => exact ⟨rfl, (List.cons.inj h).2⟩
    | cons c y => exact absurd (List.mem_cons.mpr (Or.inl (List.cons.inj h).1)) hy
  | cons c x ih =>
    cases y with
    | nil => exact absurd (List.mem_cons.mpr (Or.inl (List.cons.inj h).1.symm)) hx
    | cons d y =>
      obtain ⟨rfl, hrest⟩ := List.cons.inj h
      obtain ⟨rfl, rfl⟩ := ih (fun hc => hx (List.mem_cons_of_mem _ hc))
        (fun hc => hy (List.mem_cons_of_mem _ hc)) hrest
      exact ⟨rfl, rfl⟩

/-- **Different settings have different texts.** -/
theorem serializeKdf_injective : Function.Injective serializeKdf := by
  intro a b h
  have hlist := congrArg String.toList h
  rw [serializeKdf_toList, serializeKdf_toList] at hlist
  obtain ⟨htype, hlist⟩ := split_colon (colon_notMem_natRepr _) (colon_notMem_natRepr _) hlist
  obtain ⟨hiterations, hlist⟩ :=
    split_colon (colon_notMem_intRepr _) (colon_notMem_intRepr _) hlist
  obtain ⟨hmemory, hparallelism⟩ :=
    split_colon (colon_notMem_optional _) (colon_notMem_optional _) hlist
  cases a
  cases b
  simp only [AccountCredentialKdf.mk.injEq]
  exact ⟨Nat.repr_inj.mp (String.toList_inj.mp htype),
    Int.repr_inj.mp (String.toList_inj.mp hiterations),
    optionalRepr_injective (String.toList_inj.mp hmemory),
    optionalRepr_injective (String.toList_inj.mp hparallelism)⟩

theorem serializedKdfLe_trans (a b c : AccountCredentialKdf) (hab : serializedKdfLe a b)
    (hbc : serializedKdfLe b c) : serializedKdfLe a c :=
  decide_eq_true (String.le_trans (of_decide_eq_true hab) (of_decide_eq_true hbc))

theorem serializedKdfLe_total (a b : AccountCredentialKdf) :
    serializedKdfLe a b || serializedKdfLe b a := by
  rw [Bool.or_eq_true]
  exact (String.le_total (serializeKdf a) (serializeKdf b)).imp decide_eq_true decide_eq_true

theorem serializedKdfLe_antisymm (a b : AccountCredentialKdf) (hab : serializedKdfLe a b)
    (hba : serializedKdfLe b a) : a = b :=
  serializeKdf_injective (String.le_antisymm (of_decide_eq_true hab) (of_decide_eq_true hba))

/-! ## What the normalization keeps -/

/-- The readable rows with their settings. -/
def readableKdfs (entries : List PreloginKdfDistributionEntry) : List WeightedKdf :=
  entries.filterMap fun entry =>
    (clientReadablePreloginKdf entry.generation).map fun kdf => ⟨kdf, entry.accountCount⟩

/-- Every count is positive, and those of the readable rows sum to a safe integer. -/
structure SafeKdfDistribution (entries : List PreloginKdfDistributionEntry) : Prop where
  positive : ∀ entry ∈ entries, 0 < entry.accountCount
  safe : Weighted.total (readableKdfs entries) ≤ 2 ^ 53 - 1

theorem isSafeInteger_of_le {n : Nat} (h : n ≤ 2 ^ 53 - 1) : isSafeInteger n = true := by
  unfold isSafeInteger
  simp only [Bool.and_eq_true, decide_eq_true_eq]
  omega

section Normalization

open Weighted (Gathered countOf add)

/-- What the loop has gathered of the rows so far. -/
structure KdfGathering.Holds (s : KdfGathering) (ws : List WeightedKdf) : Prop where
  gathered : Gathered s.byKdf
  counts : ∀ kdf, countOf s.byKdf kdf = countOf ws kdf
  sum : Weighted.total s.byKdf = Weighted.total ws
  total : s.total = Weighted.total ws

theorem readableKdfs_cons (entry : PreloginKdfDistributionEntry)
    (entries : List PreloginKdfDistributionEntry) :
    readableKdfs (entry :: entries) = readableKdfs [entry] ++ readableKdfs entries := by
  unfold readableKdfs
  rw [← List.filterMap_append]
  rfl

/-- A gathered count is at most the total. -/
theorem countOf_le_total (ws : List WeightedKdf) (kdf : AccountCredentialKdf) :
    countOf ws kdf ≤ Weighted.total ws := by
  induction ws with
  | nil => exact Nat.le_refl 0
  | cons w ws ih =>
    rw [Weighted.countOf_cons, Weighted.total_cons]
    split <;> omega

/-- **One row.** Within the safe integers it is gathered when it is readable. -/
theorem KdfGathering.Holds.gather {s : KdfGathering} {ws : List WeightedKdf}
    {entry : PreloginKdfDistributionEntry} (h : s.Holds ws) (hpositive : 0 < entry.accountCount)
    (hsafe : Weighted.total ws + Weighted.total (readableKdfs [entry]) ≤ 2 ^ 53 - 1) :
    (s.gather entry).Holds (ws ++ readableKdfs [entry]) := by
  unfold KdfGathering.gather
  cases hreadable : clientReadablePreloginKdf entry.generation with
  | none =>
    have hnone : readableKdfs [entry] = [] := by simp [readableKdfs, hreadable]
    rw [hnone, List.append_nil]
    exact h
  | some kdf =>
    have hone : readableKdfs [entry] = [⟨kdf, entry.accountCount⟩] := by
      simp [readableKdfs, hreadable]
    rw [hone] at hsafe ⊢
    have hsum : s.total + entry.accountCount ≤ 2 ^ 53 - 1 := by
      rw [h.total]
      simpa [Weighted.total] using hsafe
    -- No guard of the loop refuses the row.
    have hguard : (!isSafeInteger entry.accountCount || entry.accountCount < 1 ||
        !isSafeInteger (s.total + entry.accountCount : Nat)) = false := by
      rw [isSafeInteger_of_le (n := entry.accountCount) (by omega), isSafeInteger_of_le hsum]
      simpa using hpositive.ne'
    have hexisting : ((s.byKdf.find? fun w => serializeKdf w.value = serializeKdf kdf).any
        fun existing => !isSafeInteger (existing.count + entry.accountCount : Nat)) = false := by
      cases hfind : s.byKdf.find? fun w => serializeKdf w.value = serializeKdf kdf with
      | none => rfl
      | some existing =>
        have hmem := List.mem_of_find?_eq_some hfind
        have hle : existing.count ≤ s.total := by
          rw [← h.gathered.countOf_of_mem hmem, h.counts, h.total]
          exact countOf_le_total ws _
        have hexistingSafe : existing.count + entry.accountCount ≤ 2 ^ 53 - 1 := by omega
        simp only [Option.any_some, isSafeInteger_of_le hexistingSafe, Bool.not_true]
    dsimp only
    rw [hguard, hexisting]
    refine ⟨h.gathered.add serializeKdf_injective hpositive, fun other => ?_, ?_, ?_⟩
    · change countOf (add serializeKdf s.byKdf kdf entry.accountCount) other = _
      rw [Weighted.countOf_add serializeKdf_injective, h.counts, Weighted.countOf_append]
      simp
    · change Weighted.total (add serializeKdf s.byKdf kdf entry.accountCount) = _
      rw [Weighted.total_add, h.sum, Weighted.total_append]
      simp [Weighted.total]
    · change s.total + entry.accountCount = _
      rw [h.total, Weighted.total_append]
      simp [Weighted.total]

/-- **The loop.** -/
theorem KdfGathering.Holds.foldl {entries : List PreloginKdfDistributionEntry} :
    ∀ {s : KdfGathering} {ws : List WeightedKdf}, s.Holds ws →
      (∀ entry ∈ entries, 0 < entry.accountCount) →
      Weighted.total ws + Weighted.total (readableKdfs entries) ≤ 2 ^ 53 - 1 →
      (entries.foldl KdfGathering.gather s).Holds (ws ++ readableKdfs entries) := by
  induction entries with
  | nil =>
    intro s ws h _ _
    rw [show readableKdfs [] = [] from rfl, List.append_nil]
    exact h
  | cons entry entries ih =>
    intro s ws h hpositive hsafe
    rw [readableKdfs_cons, ← List.append_assoc, List.foldl_cons]
    rw [readableKdfs_cons, Weighted.total_append] at hsafe
    refine ih (h.gather (hpositive entry List.mem_cons_self) (by omega))
      (fun entry' h' => hpositive entry' (List.mem_cons_of_mem _ h')) ?_
    rw [Weighted.total_append]
    omega

/-- **A safe distribution is gathered whole.** -/
theorem SafeKdfDistribution.holds {entries : List PreloginKdfDistributionEntry}
    (h : SafeKdfDistribution entries) :
    (entries.foldl KdfGathering.gather {}).Holds (readableKdfs entries) := by
  have hstart : KdfGathering.Holds {} [] := ⟨⟨List.nodup_nil, by simp⟩, fun _ => rfl, rfl, rfl⟩
  exact hstart.foldl h.positive (by simpa [Weighted.total] using h.safe)

variable {entries : List PreloginKdfDistributionEntry}

theorem normalizeStoredKdfDistribution_perm (entries : List PreloginKdfDistributionEntry) :
    (normalizeStoredKdfDistribution entries).Perm
      (entries.foldl KdfGathering.gather {}).byKdf :=
  List.mergeSort_perm _ _

/-- **The normalized distribution has the counts of the rows.** -/
theorem SafeKdfDistribution.normalized (h : SafeKdfDistribution entries) :
    (∀ kdf, countOf (normalizeStoredKdfDistribution entries) kdf =
      countOf (readableKdfs entries) kdf) ∧
    Weighted.total (normalizeStoredKdfDistribution entries) =
      Weighted.total (readableKdfs entries) := by
  have hperm := normalizeStoredKdfDistribution_perm entries
  refine ⟨fun kdf => ?_, ?_⟩
  · rw [Weighted.countOf_perm hperm, h.holds.counts]
  · rw [Weighted.total_perm hperm, h.holds.sum]

/-- **Rows with the same counts are normalized to the same distribution.** -/
theorem SafeKdfDistribution.normalized_eq {entries' : List PreloginKdfDistributionEntry}
    (h : SafeKdfDistribution entries) (h' : SafeKdfDistribution entries')
    (hcounts : ∀ kdf, countOf (readableKdfs entries') kdf = countOf (readableKdfs entries) kdf) :
    normalizeStoredKdfDistribution entries' = normalizeStoredKdfDistribution entries := by
  unfold normalizeStoredKdfDistribution
  refine h'.holds.gathered.mergeSort_eq serializedKdfLe_trans serializedKdfLe_total
    serializedKdfLe_antisymm h.holds.gathered fun kdf => ?_
  rw [h'.holds.counts, h.holds.counts, hcounts]

/-- The rows are empty when the normalized distribution is. -/
theorem SafeKdfDistribution.normalized_eq_nil (h : SafeKdfDistribution entries)
    (hnil : normalizeStoredKdfDistribution entries = []) : readableKdfs entries = [] := by
  have htotal := h.normalized.2
  rw [hnil] at htotal
  refine List.eq_nil_iff_forall_not_mem.mpr fun w hw => ?_
  obtain ⟨entry, hentry, hsome⟩ := List.mem_filterMap.mp hw
  obtain ⟨kdf, -, rfl⟩ := Option.map_eq_some_iff.mp hsome
  have hle := (Weighted.le_countOf_of_mem hw).trans (countOf_le_total _ _)
  have hpositive := h.positive entry hentry
  change 0 = Weighted.total (readableKdfs entries) at htotal
  rw [← htotal] at hle
  exact absurd hle (by simpa using hpositive.ne')

/-- A synthetic selection draws from a total that is not zero. -/
theorem SafeKdfDistribution.total_pos (h : SafeKdfDistribution entries) :
    0 < Weighted.total (syntheticDistribution entries) := by
  unfold syntheticDistribution
  split
  · exact Nat.one_pos
  · rename_i hne
    obtain ⟨w, hw⟩ := List.exists_mem_of_ne_nil _ hne
    have hw' := (normalizeStoredKdfDistribution_perm entries).mem_iff.mp hw
    exact (h.holds.gathered.positive w hw').trans_le
      ((Weighted.le_countOf_of_mem hw).trans (countOf_le_total _ _))

end Normalization

/-! ## What is answered -/

section Answers

variable {hmac : String → String → BitVec 256} {entries : List PreloginKdfDistributionEntry}

/-- A selection from a total that is not zero succeeds. -/
theorem deriveSyntheticKdf_total {distribution : List WeightedKdf} (email secret : String)
    (h : 0 < Weighted.total distribution) :
    ∃ kdf, deriveSyntheticKdf hmac email secret distribution = .ok kdf := by
  have hsome : (Weighted.pick distribution ((hmac secret (syntheticKdfDomain ++ email)).toNat /
      2 ^ 192 % Weighted.total distribution)).isSome :=
    Weighted.pick_isSome_iff.mpr (Nat.mod_lt _ h)
  obtain ⟨kdf, hkdf⟩ := Option.isSome_iff_exists.mp hsome
  refine ⟨kdf, ?_⟩
  unfold deriveSyntheticKdf
  dsimp only
  rw [if_neg h.ne', hkdf]

theorem buildPreloginKdfResponse_unknown {email secret : String} {kdf : AccountCredentialKdf}
    (h : deriveSyntheticKdf hmac email secret (syntheticDistribution entries) = .ok kdf) :
    buildPreloginKdfResponse hmac email { target := none, distribution := entries } secret =
      .ok (some (kdf.response email)) := by
  unfold buildPreloginKdfResponse
  simp only [Option.any_none, Option.bind_none, h]
  rfl

theorem buildPreloginKdfResponse_known {u : User} {secret : String} {kdf : AccountCredentialKdf}
    (hsafe : SafeKdfDistribution entries) (hkdf : clientReadablePreloginKdf u = some kdf)
    (hcounted : 0 < Weighted.countOf (readableKdfs entries) kdf) :
    buildPreloginKdfResponse hmac u.emailNormalized
        { target := some u, distribution := entries } secret =
      .ok (some (kdf.response u.emailNormalized)) := by
  obtain ⟨synthetic, hsynthetic⟩ : ∃ synthetic, deriveSyntheticKdf hmac u.emailNormalized secret
      (syntheticDistribution entries) = .ok synthetic :=
    deriveSyntheticKdf_total u.emailNormalized secret hsafe.total_pos
  have hfound : (normalizeStoredKdfDistribution entries).any
      (fun entry => serializeKdf entry.value = serializeKdf kdf) = true := by
    rw [← hsafe.normalized.1 kdf] at hcounted
    have hmem : kdf ∈ (normalizeStoredKdfDistribution entries).map Weighted.Entry.value := by
      by_contra habsent
      rw [Weighted.countOf_of_notMem habsent] at hcounted
      exact absurd hcounted (Nat.lt_irrefl 0)
    obtain ⟨w, hw, rfl⟩ := List.mem_map.mp hmem
    exact List.any_eq_true.mpr ⟨w, hw, decide_eq_true rfl⟩
  unfold buildPreloginKdfResponse
  simp only [Option.any_some, ne_eq, not_true_eq_false, decide_false, Bool.false_eq_true, if_false,
    Option.bind_some, hkdf, hfound, if_true, hsynthetic]
  rfl

/-! ### Rows of the population -/

theorem KdfTuple.key_tuple (t : KdfTuple) : t.key.tuple = t :=
  KdfTuple.key_injective (KdfPopulationKey.key_tuple t.key)

/-- The settings of an account are read from its four columns. -/
theorem clientReadablePreloginKdf_kdfTuple (u : User) :
    clientReadablePreloginKdf u.kdfTuple.generation = clientReadablePreloginKdf u := rfl

/-- The WHERE lets through every row a client can read. -/
theorem readable_of_clientReadable {u : User} {kdf : AccountCredentialKdf}
    (h : clientReadablePreloginKdf u = some kdf) : u.kdfTuple.key.Readable := by
  unfold clientReadablePreloginKdf accountCredentialKdfFromStoredGeneration
    accountCredentialKdfTypeForStoredAlgorithm at h
  unfold KdfPopulationKey.Readable KdfTuple.key User.kdfTuple
  by_cases hpbkdf2 : u.kdfAlgorithm = "pbkdf2-sha256"
  · rw [if_pos hpbkdf2, Option.bind_some] at h
    dsimp only at h
    split_ifs at h with hvalid
    · simp only [isStructurallyValidKdf, if_true, Bool.and_eq_true, decide_eq_true_eq] at hvalid
      dsimp only at h
      rw [if_pos rfl] at h
      split_ifs at h with hrange
      exact Or.inl ⟨hpbkdf2, hrange, by simp [hvalid.2.1], by simp [hvalid.2.2]⟩
  · by_cases hargon2 : u.kdfAlgorithm = "argon2id"
    · rw [if_neg hpbkdf2, if_pos hargon2, Option.bind_some] at h
      dsimp only at h
      split_ifs at h with hvalid
      · dsimp only at h
        rw [if_neg Nat.one_ne_zero] at h
        split at h
        · rename_i memory parallelism hmemory hparallelism
          split_ifs at h with hrange
          simp only [Bool.and_eq_true] at hrange
          rw [hmemory, hparallelism]
          exact Or.inr ⟨hargon2, hrange.1.1, rfl, hrange.1.2, rfl, hrange.2⟩
        · cases h
    · rw [if_neg hpbkdf2, if_neg hargon2] at h
      cases h

theorem mem_distribution {email : String} {db : KdfTables} {entry : PreloginKdfDistributionEntry} :
    entry ∈ (findPreloginKdfContext email db).distribution ↔
      ∃ p ∈ db.accountKdfPopulation.rows, p.key.Readable ∧ p.entry = entry := by
  simp only [findPreloginKdfContext, List.mem_mergeSort, List.mem_map, List.mem_filter,
    decide_eq_true_eq, and_assoc]

/-- The rows that are read have positive counts. -/
theorem distribution_positive {email : String} {db : KdfTables} :
    ∀ entry ∈ (findPreloginKdfContext email db).distribution, 0 < entry.accountCount := by
  intro entry hentry
  obtain ⟨p, -, -, rfl⟩ := mem_distribution.mp hentry
  exact p.positive

/-- **The population counts the settings of every account a client can read.** -/
theorem countOf_known {email : String} {db : KdfTables} (hagrees : db.Agrees) {u : User}
    (hu : u ∈ db.users.rows) {kdf : AccountCredentialKdf}
    (hkdf : clientReadablePreloginKdf u = some kdf) :
    0 < Weighted.countOf (readableKdfs (findPreloginKdfContext email db).distribution) kdf := by
  have hholders : 0 < db.holders u.kdfTuple := List.count_pos_iff.mpr (List.mem_map_of_mem hu)
  have hcount := hagrees u.kdfTuple
  rw [if_neg hholders.ne', KdfTables.populationCount] at hcount
  obtain ⟨p, hfind, -⟩ := Option.map_eq_some_iff.mp hcount
  have hp := List.mem_of_find?_eq_some hfind
  have hkey : p.key = u.kdfTuple.key := by simpa using List.find?_some hfind
  have hreadable : p.key.Readable := hkey ▸ readable_of_clientReadable hkdf
  have hentry : p.entry ∈ (findPreloginKdfContext email db).distribution :=
    mem_distribution.mpr ⟨p, hp, hreadable, rfl⟩
  have hsettings : clientReadablePreloginKdf p.entry.generation = some kdf := by
    change clientReadablePreloginKdf p.key.tuple.generation = some kdf
    rw [hkey, KdfTuple.key_tuple, clientReadablePreloginKdf_kdfTuple, hkdf]
  have hmem : (⟨kdf, p.accountCount⟩ : WeightedKdf) ∈
      readableKdfs (findPreloginKdfContext email db).distribution :=
    List.mem_filterMap.mpr ⟨p.entry, hentry, by rw [hsettings]; rfl⟩
  exact p.positive.trans_le (Weighted.le_countOf_of_mem hmem)

end Answers

/-- **The answers are exact while the counts sum to a safe integer.** For every distribution, the
selection never throws; settings are chosen for as many residues of the total as the readable rows
count accounts; and rows in another order, or split otherwise, give the same answers. In every
state of the tables that statements on `users` lead to, an account with readable settings is
answered with these. -/
theorem preloginKdf_exact (hmac : String → String → BitVec 256) (secret : String) :
    (∀ entries : List PreloginKdfDistributionEntry, SafeKdfDistribution entries →
      (∀ email, ∃ kdf,
        deriveSyntheticKdf hmac email secret (syntheticDistribution entries) = .ok kdf ∧
        buildPreloginKdfResponse hmac email { target := none, distribution := entries } secret =
          .ok (some (kdf.response email))) ∧
      (readableKdfs entries ≠ [] →
        Weighted.total (syntheticDistribution entries) = Weighted.total (readableKdfs entries) ∧
        ∀ kdf, (List.range (Weighted.total (syntheticDistribution entries))).countP
            (fun residue => Weighted.pick (syntheticDistribution entries) residue = some kdf) =
          Weighted.countOf (readableKdfs entries) kdf) ∧
      ∀ entries' : List PreloginKdfDistributionEntry,
        (∀ entry ∈ entries', 0 < entry.accountCount) →
        (∀ kdf, Weighted.countOf (readableKdfs entries') kdf =
          Weighted.countOf (readableKdfs entries) kdf) →
        ∀ target email,
          buildPreloginKdfResponse hmac email { target, distribution := entries' } secret =
            buildPreloginKdfResponse hmac email { target, distribution := entries } secret) ∧
    ∀ (users : Table User) (statements : List UserStatement),
      ∀ u ∈ (runStatements statements (KdfTables.backfill users)).1.users.rows,
      ∀ kdf, clientReadablePreloginKdf u = some kdf →
        SafeKdfDistribution (findPreloginKdfContext u.emailNormalized
          (runStatements statements (KdfTables.backfill users)).1).distribution →
        buildPreloginKdfResponse hmac u.emailNormalized
            (findPreloginKdfContext u.emailNormalized
              (runStatements statements (KdfTables.backfill users)).1) secret =
          .ok (some (kdf.response u.emailNormalized)) := by
  refine ⟨fun entries hsafe => ⟨fun email => ?_, fun hne => ?_, fun entries' hpositive hcounts
    target email => ?_⟩, fun users statements u hu kdf hkdf hsafe => ?_⟩
  · obtain ⟨kdf, hkdf⟩ : ∃ kdf, deriveSyntheticKdf hmac email secret
        (syntheticDistribution entries) = .ok kdf :=
      deriveSyntheticKdf_total email secret hsafe.total_pos
    exact ⟨kdf, hkdf, buildPreloginKdfResponse_unknown hkdf⟩
  · have hdistribution : syntheticDistribution entries = normalizeStoredKdfDistribution entries :=
      if_neg fun hnil => hne (hsafe.normalized_eq_nil hnil)
    rw [hdistribution]
    refine ⟨hsafe.normalized.2, fun kdf => ?_⟩
    rw [Weighted.countP_pick, hsafe.normalized.1]
  · have hsafe' : SafeKdfDistribution entries' := by
      refine ⟨hpositive, ?_⟩
      rw [Weighted.total_eq_of_countOf hcounts]
      exact hsafe.safe
    have hsame := hsafe.normalized_eq hsafe' hcounts
    simp only [buildPreloginKdfResponse, syntheticDistribution, hsame]
  · have htallied := (KdfTables.agrees_backfill users).tallied
    have hagrees := (runStatements_tallied statements htallied).1.agrees
    generalize (runStatements statements (KdfTables.backfill users)).1 = db at *
    have htarget : db.users.rows.find? (fun v => v.emailNormalized = u.emailNormalized) =
        some u := by
      cases hfind : db.users.rows.find? fun v => v.emailNormalized = u.emailNormalized with
      | none => exact absurd (List.find?_eq_none.mp hfind u hu) (by simp)
      | some v =>
        have hv := List.mem_of_find?_eq_some hfind
        have hsame : v.emailNormalized = u.emailNormalized := by
          simpa using List.find?_some hfind
        rw [db.users.eq_of_alternate hv hu hsame]
    have hcontext : findPreloginKdfContext u.emailNormalized db =
        { target := some u,
          distribution := (findPreloginKdfContext u.emailNormalized db).distribution } := by
      unfold findPreloginKdfContext
      rw [htarget]
    rw [hcontext]
    exact buildPreloginKdfResponse_known hsafe hkdf (countOf_known hagrees hu hkdf)




def knownAccount : Table User := .singleton { id := "u", emailNormalized := "e" }

def oneEntry : PreloginKdfDistributionEntry where
  kdfAlgorithm := "pbkdf2-sha256"
  kdfIterations := 700000
  kdfMemory := none
  kdfParallelism := none
  accountCount := 3

theorem preloginKdf_exact_one :
    (∃ kdf, deriveSyntheticKdf (fun _ _ => 0) "x" "s" (syntheticDistribution [oneEntry]) = .ok kdf ∧
      buildPreloginKdfResponse (fun _ _ => 0) "x"
          { target := none, distribution := [oneEntry] } "s" =
        .ok (some (kdf.response "x"))) ∧
    buildPreloginKdfResponse (fun _ _ => 0) "e"
        (findPreloginKdfContext "e" (KdfTables.backfill knownAccount)) "s" =
      .ok (some (defaultAccountKdf.response "e")) := by
  obtain ⟨hsynthetic, hknown⟩ := preloginKdf_exact (fun _ _ => 0) "s"
  refine ⟨(hsynthetic [oneEntry] ⟨by decide, by decide +kernel⟩).1 "x", ?_⟩
  exact hknown knownAccount [] _ List.mem_cons_self defaultAccountKdf (by decide +kernel)
    ⟨distribution_positive, by decide +kernel⟩

/-- Two rows whose counts exceed the safe integers together. -/
def fullPopulation : Table AccountKdfPopulation where
  rows := [600000, 700000].map fun iterations =>
    { key := KdfTuple.key
        { kdfAlgorithm := "pbkdf2-sha256", kdfIterations := iterations, kdfMemory := none,
          kdfParallelism := none }
      accountCount := 2 ^ 53 - 1
      positive := by decide }
  keyed := by decide

/-- **Beyond the safe integers the answer depends on the order of the rows.** -/
theorem preloginKdf_order_dependent :
    ¬ ∀ (hmac : String → String → BitVec 256) (secret email : String)
        (population : Table AccountKdfPopulation) (entries entries' :
          List PreloginKdfDistributionEntry),
      entries.Perm (population.rows.map AccountKdfPopulation.entry) →
      entries'.Perm (population.rows.map AccountKdfPopulation.entry) →
      buildPreloginKdfResponse hmac email { target := none, distribution := entries } secret =
        buildPreloginKdfResponse hmac email
          { target := none, distribution := entries' } secret := by
  intro h
  have hsame := h (fun _ _ => 0) "s" "e" fullPopulation
    (fullPopulation.rows.map AccountKdfPopulation.entry)
    (fullPopulation.rows.map AccountKdfPopulation.entry).reverse (List.Perm.refl _)
    (List.reverse_perm _)
  revert hsame
  decide +kernel


end HonoWarden
