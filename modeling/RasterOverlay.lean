import RasterOverlay.Main
import RasterOverlay.Proofs.AddressingsAgree
import RasterOverlay.Proofs.AncestorChains
import RasterOverlay.Proofs.ChangedPadding
import RasterOverlay.Proofs.CheckedBaseUrl
import RasterOverlay.Proofs.CommandsAgree
import RasterOverlay.Proofs.DecodedQuery
import RasterOverlay.Proofs.DescribedOverlay
import RasterOverlay.Proofs.DistinctQueries
import RasterOverlay.Proofs.ExactAddressing
import RasterOverlay.Proofs.FairTurns
import RasterOverlay.Proofs.FlippedRows
import RasterOverlay.Proofs.HiddenSecrets
import RasterOverlay.Proofs.InvertedIndex
import RasterOverlay.Proofs.LevelCounts
import RasterOverlay.Proofs.LoaderRuns
import RasterOverlay.Proofs.NamedProjection
import RasterOverlay.Proofs.OrderedRectangles
import RasterOverlay.Proofs.OutsideReports
import RasterOverlay.Proofs.PathPlaceholders
import RasterOverlay.Proofs.QuadtreeLevels
import RasterOverlay.Proofs.RowsInvertedOnce
import RasterOverlay.Proofs.SeparatedNumbers
import RasterOverlay.Proofs.SubdomainNotations
import RasterOverlay.Proofs.TemplateJoints
