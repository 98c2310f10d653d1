import MfmRender.Document.Edit
import MfmRender.Http.Server
import MfmRender.Main
import MfmRender.Node.Save
import MfmRender.Proofs.Animation
import MfmRender.Proofs.Containment
import MfmRender.Proofs.Highlight.Content
import MfmRender.Proofs.Http.Contract
import MfmRender.Proofs.Node.Report
import MfmRender.Walk
import MfmRender.Proofs.Incremental
import MfmRender.Proofs.OptionUse
import MfmRender.Proofs.Preloading
import MfmRender.Proofs.TextLines
import MfmRender.Proofs.Document.Edits
import MfmRender.Proofs.Dispatch
import MfmRender.Proofs.RootName
import MfmRender.Proofs.CommandLine.Arguments
import MfmRender.Proofs.Entrances
import MfmRender.Proofs.Http.Fallback
import MfmRender.Proofs.Link.Host
import MfmRender.Proofs.Link.Encoding
import MfmRender.Proofs.Link.Anchor
import MfmRender.Proofs.Context
import MfmRender.Proofs.Highlight.Precoloured
import MfmRender.Proofs.Node.Saving
import MfmRender.Proofs.RootElement
import MfmRender.Proofs.Walk
import MfmRender.Proofs.ClassList
