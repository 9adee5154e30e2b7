import LedgerExport.CommandLine.Session
import LedgerExport.Main
import LedgerExport.Proofs.AssetEvent.ContractCheck
import LedgerExport.Proofs.AssetName.Canonical
import LedgerExport.Proofs.Bytes.HashText
import LedgerExport.Proofs.Closing.Permutation
import LedgerExport.Proofs.CommandLine.NetworkChoice
import LedgerExport.Proofs.Export.LongestPrefix
import LedgerExport.Proofs.Json.Printing
import LedgerExport.Proofs.Position.Packing
import LedgerExport.Proofs.Record.LedgerForms
import LedgerExport.Proofs.Render.Alignment
import LedgerExport.Proofs.Render.AssetEvents
import LedgerExport.Proofs.Render.Completeness
import LedgerExport.Proofs.Render.Envelope
import LedgerExport.Proofs.Render.Options
import LedgerExport.Proofs.Render.Success
import LedgerExport.Proofs.Render.Summary
import LedgerExport.Proofs.Render.Upgrades
import LedgerExport.Proofs.SignedBytes
import LedgerExport.Proofs.StrKey.SharedTexts
import LedgerExport.Proofs.Stream.Consumption
import LedgerExport.Proofs.Stream.LineNumbers
import LedgerExport.Proofs.Stream.SpacedLines
import LedgerExport.Proofs.Wide
