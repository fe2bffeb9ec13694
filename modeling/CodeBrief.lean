import CodeBrief.Main
import CodeBrief.Proofs.Assembly
import CodeBrief.Proofs.Path
import CodeBrief.Proofs.Priority
import CodeBrief.Proofs.Store
import CodeBrief.Proofs.ReferenceOrder
import CodeBrief.Proofs.Place
import CodeBrief.Proofs.ReferenceHistory
import CodeBrief.Proofs.Holdings
import CodeBrief.Proofs.Search
import CodeBrief.Proofs.NodePlaces
import CodeBrief.Proofs.Walk
import CodeBrief.Proofs.JavaSource
import CodeBrief.Proofs.JavaLine
import CodeBrief.Proofs.JavaMember
import CodeBrief.Proofs.JavaHeader
import CodeBrief.Proofs.JavaScan
import CodeBrief.Proofs.JavaComments
import CodeBrief.Proofs.RaisedLimit
import CodeBrief.Proofs.LoadedSettings
import CodeBrief.Proofs.Tracked
import CodeBrief.Proofs.FailedCalls
import CodeBrief.Proofs.Ranking
import CodeBrief.Proofs.SettingChange
import CodeBrief.Proofs.Accounting
import CodeBrief.Proofs.Repacking
import CodeBrief.Proofs.CommentNodes
import CodeBrief.Proofs.Initialization
import CodeBrief.Proofs.ScriptComments
import CodeBrief.Proofs.RepeatedCaps
import CodeBrief.Proofs.SettingByKey
import CodeBrief.Proofs.JavaPadding
import CodeBrief.Proofs.Registrations
import CodeBrief.Proofs.JavaTokens
import CodeBrief.Proofs.JavaClassHeader
import CodeBrief.Proofs.DigestText
import CodeBrief.Proofs.LiteralPatterns
import CodeBrief.Proofs.ProjectRoot
import CodeBrief.Proofs.Outline
import CodeBrief.Proofs.ShownFiles
