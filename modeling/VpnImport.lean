import VpnImport.About
import VpnImport.Log.Config
import VpnImport.Proofs.Classification.Mixed
import VpnImport.Proofs.IKEv2.Version
import VpnImport.Proofs.Importer.Built
import VpnImport.Proofs.Importer.Entries
import VpnImport.Proofs.Importer.WellFormed
import VpnImport.Proofs.Json.Export
import VpnImport.Proofs.Layout.Import
import VpnImport.Proofs.Log.Written
import VpnImport.Proofs.OpenVPN.Closing
import VpnImport.Proofs.OpenVPN.Detected
import VpnImport.Proofs.OpenVPN.Opacity
import VpnImport.Proofs.WireGuard.Acceptance
import VpnImport.Proofs.WireGuard.Secrets
import VpnImport.Proofs.Detection.Outcome
import VpnImport.Proofs.Log.Account
import VpnImport.Proofs.KeyCase.Lookup
import VpnImport.Proofs.KeyCase.Extraction
import VpnImport.Proofs.KeyCase.Import
import VpnImport.Proofs.Text.Number
import VpnImport.Proofs.Endpoint.Grammar
import VpnImport.Proofs.Assignment.Written
import VpnImport.Proofs.Text.Pattern
import VpnImport.Proofs.Comment
import VpnImport.Proofs.IKEv2.Connection
import VpnImport.Proofs.Section.Blocks
import VpnImport.Proofs.WireGuard.SectionOrder
import VpnImport.Proofs.IKEv2.Port
import VpnImport.Proofs.Slices
import VpnImport.Proofs.Section.Cut
import VpnImport.Proofs.Keyword.Score
