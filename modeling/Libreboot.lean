import Libreboot.Descriptor.SelfWriting
import Libreboot.Descriptor.RegionMap
import Libreboot.Ich9gen.MkGbe
import Libreboot.Common.X86Compatibility
import Libreboot.Common.DescriptorGbe
import Libreboot.Ich9deblob.Uninitialised
import Libreboot.Ich9deblob.GbeRegion
import Libreboot.Demefactory.Main
import Libreboot.Demefactory.Absorption
import Libreboot.Ich9gen.Main
import Libreboot.Ich9gen.Rebuild
import Libreboot.Gbe.Layout
import Libreboot.Gbe.Repair
import Libreboot.Grub.Menu
import Libreboot.Depthcharge.Leftovers
import Libreboot.Depthcharge.Installation
import Libreboot.CorebootLibre.Deblob
import Libreboot.Coreboot.Download
import Libreboot.Roms.Patched
import Libreboot.Flash.Installation
