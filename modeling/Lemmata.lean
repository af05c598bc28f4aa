import Lemmata.Cli.World
import Lemmata.Main
import Lemmata.Plan.Overview
import Lemmata.Proofs.Effect.ClaimedLemmas
import Lemmata.Proofs.Plan.PlannedChains
import Lemmata.Proofs.Run.AnyOrder
import Lemmata.Proofs.Run.CacheIntegrity
import Lemmata.Proofs.Run.LookUp
import Lemmata.Proofs.Run.NoLayers
import Lemmata.Proofs.Run.Provenance
import Lemmata.Proofs.Run.ReadBack
import Lemmata.Proofs.Run.Repeated
import Lemmata.Proofs.Run.RoundFailure
import Lemmata.Proofs.Run.SameWork
import Lemmata.Proofs.Run.Sources
import Lemmata.Proofs.Run.Stubs
import Lemmata.Proofs.Store.Intact
import Lemmata.Proofs.Store.KeyedMaps
import Lemmata.Proofs.Store.Legible
import Lemmata.Run.Numbering
import Lemmata.Proofs.Plan.LongestChains
import Lemmata.Proofs.Run.Deadline
import Lemmata.Proofs.Decimal.Shortest
import Lemmata.Proofs.Json.NumberText
import Lemmata.Proofs.Json.Unambiguous
import Lemmata.Proofs.Decimal.Rounding
import Lemmata.Proofs.Json.ReadProper
import Lemmata.Proofs.Cli.Prune
import Lemmata.Proofs.Client.Arguments
import Lemmata.Proofs.Client.Below
import Lemmata.Proofs.Store.Retention
import Lemmata.Proofs.Client.Refused
import Lemmata.Proofs.Run.SetUp
import Lemmata.Proofs.Store.AccessOrder
