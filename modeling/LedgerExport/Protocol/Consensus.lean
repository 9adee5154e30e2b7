import LedgerExport.Protocol.Key

/-!
# Messages of the consensus

The messages by which the validators agreed on a ledger. They come with a
ledger and are read for their length alone.
-/

namespace LedgerExport.Protocol

open Xdr

/-- A numbered value to vote on. -/
structure Ballot where
  counter : UInt32
  value : Octets

def Ballot.layout : Codec Ballot :=
  Layout.make Ballot.mk |>.field uint32 (·.counter) |>.field (octets unlimited) (·.value)

/-- Votes to prepare a ballot. -/
structure Prepare where
  quorumSet : Hash
  ballot : Ballot
  prepared : Option Ballot
  preparedPrime : Option Ballot
  nC : UInt32
  nH : UInt32

def Prepare.layout : Codec Prepare :=
  Layout.make Prepare.mk
    |>.field (fixed 32) (·.quorumSet)
    |>.field Ballot.layout (·.ballot)
    |>.field (optional Ballot.layout) (·.prepared)
    |>.field (optional Ballot.layout) (·.preparedPrime)
    |>.field uint32 (·.nC)
    |>.field uint32 (·.nH)

/-- Votes to commit a ballot. -/
structure Confirm where
  ballot : Ballot
  nPrepared : UInt32
  nCommit : UInt32
  nH : UInt32
  quorumSet : Hash

def Confirm.layout : Codec Confirm :=
  Layout.make Confirm.mk
    |>.field Ballot.layout (·.ballot)
    |>.field uint32 (·.nPrepared)
    |>.field uint32 (·.nCommit)
    |>.field uint32 (·.nH)
    |>.field (fixed 32) (·.quorumSet)

/-- A decision. -/
structure Externalize where
  commit : Ballot
  nH : UInt32
  quorumSet : Hash

def Externalize.layout : Codec Externalize :=
  Layout.make Externalize.mk
    |>.field Ballot.layout (·.commit)
    |>.field uint32 (·.nH)
    |>.field (fixed 32) (·.quorumSet)

/-- Values that a validator proposes. -/
structure Nomination where
  quorumSet : Hash
  votes : List Octets
  accepted : List Octets

def Nomination.layout : Codec Nomination :=
  Layout.make Nomination.mk
    |>.field (fixed 32) (·.quorumSet)
    |>.field (many (octets unlimited)) (·.votes)
    |>.field (many (octets unlimited)) (·.accepted)

/-- What a validator pledges. -/
inductive Pledges
  | prepare (p : Prepare)
  | confirm (c : Confirm)
  | externalize (e : Externalize)
  | nominate (n : Nomination)

def Pledges.layout : Codec Pledges :=
  union
    (fun
      | .prepare p => ⟨0, Prepare.layout, p⟩
      | .confirm c => ⟨1, Confirm.layout, c⟩
      | .externalize e => ⟨2, Externalize.layout, e⟩
      | .nominate n => ⟨3, Nomination.layout, n⟩)
    (fun
      | 0 => .prepare <$> Prepare.layout.read
      | 1 => .confirm <$> Confirm.layout.read
      | 2 => .externalize <$> Externalize.layout.read
      | 3 => .nominate <$> Nomination.layout.read
      | _ => throw .invalidValue)

/-- A signed pledge of a validator. -/
structure Statement where
  node : AccountId
  slot : UInt64
  pledges : Pledges
  signature : Octets

def Statement.layout : Codec Statement :=
  Layout.make Statement.mk
    |>.field AccountId.layout (·.node)
    |>.field uint64 (·.slot)
    |>.field Pledges.layout (·.pledges)
    |>.field (octets 64) (·.signature)

/-- Validators, and groups of them, of which a number has to agree. -/
inductive QuorumSet
  | mk (threshold : UInt32) (validators : List AccountId) (inner : List QuorumSet)

namespace QuorumSet

/-- How many have to agree. -/
def threshold : QuorumSet → UInt32
  | .mk threshold _ _ => threshold

/-- The validators of the set itself. -/
def validators : QuorumSet → List AccountId
  | .mk _ validators _ => validators

/-- The groups in the set. -/
def inner : QuorumSet → List QuorumSet
  | .mk _ _ inner => inner

mutual

/-- The number of levels of a set. -/
def depth : QuorumSet → Nat
  | .mk _ _ inner => depthAll inner + 1

/-- The greatest number of levels of some sets. -/
def depthAll : List QuorumSet → Nat
  | [] => 0
  | set :: sets => max (depth set) (depthAll sets)

end

/-- The layout of a set, given that of its groups. -/
def shape (group : Codec QuorumSet) : Codec QuorumSet :=
  Layout.make QuorumSet.mk
    |>.field uint32 (·.threshold)
    |>.field (many AccountId.layout) (·.validators)
    |>.field (many group) (·.inner)

def layout : Codec QuorumSet :=
  recursive shape depth

end QuorumSet

/-- What the consensus said about a ledger. -/
structure ConsensusHistory where
  quorumSets : List QuorumSet
  ledgerSeq : UInt32
  messages : List Statement

def ConsensusHistory.layout : Codec ConsensusHistory :=
  single 0 <| Layout.make ConsensusHistory.mk
    |>.field (many QuorumSet.layout) (·.quorumSets)
    |>.field uint32 (·.ledgerSeq)
    |>.field (many Statement.layout) (·.messages)

end LedgerExport.Protocol
